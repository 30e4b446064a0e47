/-
The two readers of configurations, and the name that divides them.

A configuration is read in two places, by `Config.Document.load` and by `Lookup.load` for the
command line, and each of them tells the format by the name of the file on its own.  They
agree on every name but one: an extension that is TOML's in capitals, which only the command
line takes for TOML.

The main statement says that this is the whole difference, and that it is never harmless.
No text is a configuration in both formats, because a dictionary opens with a brace and no
statement of TOML does; so a file with such a name that can be read at all is read by one
and refused by the other.
-/
import NameLint.Command.Lookup
import NameLint.File.Tree
import NameLint.Proofs.File.Path
import NameLint.Proofs.Json.Result

namespace NameLint

open Json (skipGaps)

/-! ### No text has both formats -/

namespace Json

/-- That a value is no dictionary. -/
def IsNoDict (value : Json) : Prop :=
  ∀ entries, value ≠ .dict entries

/-- A dictionary opens with a brace. -/
theorem brace_of_value {depth : Nat} {cs rest : List Char} {entries : List (String × Json)}
    (h : value depth cs = .ok (.dict entries, rest)) : ∃ tail, skipGaps cs = '\x7b' :: tail := by
  have hnone : ∀ {read : Read Json} {left : List Char}, Ensures read IsNoDict →
      read left ≠ .ok (.dict entries, rest) :=
    fun hread hleft => hread _ _ _ hleft entries rfl
  have hword : ∀ (w : List Char) {j : Json}, IsNoDict j →
      Ensures (do word w; return j) IsNoDict :=
    fun w j hj => ensures_then (word w) fun _ => ensures_pure hj
  unfold value at h
  split at h
  · cases h
  · exact absurd h (hnone (hword _ (by simp [IsNoDict])))
  · exact absurd h (hnone (hword _ (by simp [IsNoDict])))
  · exact absurd h (hnone (hword _ (by simp [IsNoDict])))
  · exact absurd h (hnone (ensures_map (ensures_trivial text) (by simp [IsNoDict])))
  · split at h
    · cases h
    · refine absurd h (hnone (ensures_then _ fun values => ensures_then _ fun _ => ensures_pure ?_))
      simp [IsNoDict]
  · exact ⟨_, by assumption⟩
  · split at h
    · refine absurd h (hnone (ensures_map (ensures_trivial number) fun n _ => ?_))
      cases n <;> simp [IsNoDict, Number.toJson]
    · cases h

theorem brace_of_parse {source : String} {entries : List (String × Json)}
    (h : parse source = .ok (.dict entries)) :
    ∃ tail, skipGaps source.toList = '\x7b' :: tail := by
  obtain ⟨⟨value, rest⟩, hvalue, hend⟩ := bind_eq_ok.mp h
  dsimp only at hend
  split at hend
  · cases hend
    exact brace_of_value hvalue
  · cases hend

end Json

namespace Toml

/-- The blanks within a line are gaps of the other format. -/
theorem skipGaps_skipBlanks (cs : List Char) : skipGaps (skipBlanks cs) = skipGaps cs := by
  induction cs with
  | nil => rfl
  | cons c cs ih =>
      by_cases hblank : isBlank c = true
      · have hgap : Json.isGap c = true := by
          simp only [isBlank, Bool.or_eq_true, decide_eq_true_eq] at hblank
          rcases hblank with rfl | rfl <;> rfl
        have hblanks : skipBlanks (c :: cs) = skipBlanks cs := List.dropWhile_cons_of_pos hblank
        have hgaps : skipGaps (c :: cs) = skipGaps cs := List.dropWhile_cons_of_pos hgap
        rw [hblanks, hgaps, ih]
      · rw [skipBlanks, List.dropWhile_cons_of_neg hblank]

/-- And so are the ends of lines. -/
theorem skipGaps_of_afterNewline? {cs rest : List Char} (h : afterNewline? cs = some rest) :
    skipGaps rest = skipGaps cs := by
  unfold afterNewline? at h
  split at h
  · cases h
    rfl
  · cases h
    rfl
  · cases h

theorem statement?_of_lineEnd {c : Char} (hc : c = '\n' ∨ c = '\r') (cs : List Char) :
    statement? (c :: cs) = (afterNewline? (c :: cs)).map fun rest => (none, rest) := by
  rcases hc with rfl | rfl
  · rfl
  · show ((afterNewline? ('\r' :: cs)).map fun rest => ((), rest)).bind _ = _
    cases afterNewline? ('\r' :: cs) <;> rfl

/-- A text that opens with a brace, be it after empty lines, holds no statements. -/
theorem statementsFrom_of_brace {tail : List Char} : ∀ (fuel : Nat) (cs : List Char),
    skipGaps cs = '\x7b' :: tail → statementsFrom fuel cs = none := by
  intro fuel
  induction fuel with
  | zero => exact fun _ _ => rfl
  | succ fuel ih =>
      intro cs hbrace
      rw [← skipGaps_skipBlanks] at hbrace
      have hhead := List.head?_dropWhile_not isBlank cs
      rw [← skipBlanks] at hhead
      rw [statementsFrom]
      generalize skipBlanks cs = left at hbrace hhead ⊢
      cases left with
      | nil => cases hbrace
      | cons c left =>
          by_cases hend : c = '\n' ∨ c = '\r'
          · show (statement? (c :: left)).bind _ = none
            rw [statement?_of_lineEnd hend]
            cases hrest : afterNewline? (c :: left) with
            | none => rfl
            | some rest =>
                show (statementsFrom fuel rest).bind _ = none
                rw [ih rest ((skipGaps_of_afterNewline? hrest).trans hbrace)]
                rfl
          · -- Neither a blank nor the end of a line, so it is the brace itself.
            have hblank : isBlank c = false := hhead
            have hgap : ¬ Json.isGap c = true := by
              simp only [isBlank, Bool.or_eq_false_iff, decide_eq_false_iff_not] at hblank
              simp only [Json.isGap, Bool.or_eq_true, decide_eq_true_eq]
              rintro (((hc | hc) | hc) | hc)
              · exact hblank.1 hc
              · exact hend (Or.inl hc)
              · exact hblank.2 hc
              · exact hend (Or.inr hc)
            rw [skipGaps, List.dropWhile_cons_of_neg hgap] at hbrace
            cases hbrace
            rfl

theorem parse_of_brace {source : String} {tail : List Char}
    (h : skipGaps source.toList = '\x7b' :: tail) : parse source = none := by
  have hmark : source.toList.head? ≠ some '\uFEFF' := by
    intro hmark
    obtain ⟨cs, hcs⟩ := List.head?_eq_some_iff.mp hmark
    rw [hcs] at h
    cases h
  show (statements source.toList).bind _ = none
  rw [statements, if_neg hmark]
  show (statementsFrom _ source.toList).bind _ = none
  rw [statementsFrom_of_brace _ _ h]
  rfl

end Toml

namespace Config

/-- **No text is a configuration in both formats.** -/
theorem Document.parse_toml_of_json {source : String} {document : Document}
    (h : Document.parse .json source = .ok document) :
    Document.parse .toml source = .error .toml := by
  have hdict : Json.parse source = .ok (.dict document) := by
    unfold Document.parse at h
    dsimp only at h
    cases hvalue : Json.parse source with
    | error cause => rw [hvalue] at h; cases h
    | ok value =>
        rw [hvalue] at h
        cases value <;> cases h
        rfl
  obtain ⟨tail, hbrace⟩ := Json.brace_of_parse hdict
  rw [Document.parse, Toml.parse_of_brace hbrace]

end Config

/-! ### Names of files -/

/-- That a file name has TOML's extension, with a capital in it. -/
def Path.HasCapitals (path : Path) : Prop :=
  ∃ e : String, path.extension? = some (ofText e) ∧ e.toLower = "toml" ∧ e ≠ "toml"

namespace Command.Lookup

open NameLint.Path (HasCapitals)

theorem ofPath_eq_toml_iff {path : Path} :
    Config.Format.ofPath path = .toml ↔ path.extension? = some (Path.ofText "toml") := by
  rw [Config.Format.ofPath]
  split
  · rename_i hext
    exact iff_of_true rfl hext
  · rename_i hext
    exact iff_of_false nofun hext

theorem formatOf_eq_toml_iff {path : Path} : formatOf path = .toml ↔
    ∃ e : String, path.extension? = some (Path.ofText e) ∧ e.toLower = "toml" := by
  have hname : (path.extension?.bind Path.text?).map String.toLower = some "toml" ↔
      ∃ e : String, path.extension? = some (Path.ofText e) ∧ e.toLower = "toml" := by
    simp only [Option.map_eq_some_iff, Option.bind_eq_some_iff, Path.text?_eq_some_iff]
    constructor
    · rintro ⟨e, ⟨_, hext, rfl⟩, hlower⟩
      exact ⟨e, hext, hlower⟩
    · rintro ⟨e, hext, hlower⟩
      exact ⟨e, ⟨_, hext, rfl⟩, hlower⟩
  rw [← hname, formatOf]
  split
  · rename_i hlower
    exact iff_of_true rfl hlower
  · rename_i hlower
    refine iff_of_false (fun hformat => ?_) hlower
    cases hformat

/-- Only the command line takes an extension with capitals for TOML's. -/
theorem formats_differ_iff (path : Path) :
    (Config.Format.ofPath path = .json ∧ formatOf path = .toml) ↔ HasCapitals path := by
  have hjson : Config.Format.ofPath path = .json
      ↔ ¬ path.extension? = some (Path.ofText "toml") := by
    rw [← ofPath_eq_toml_iff]
    cases Config.Format.ofPath path <;> simp
  rw [hjson, formatOf_eq_toml_iff, HasCapitals]
  constructor
  · rintro ⟨hother, e, hext, hlower⟩
    exact ⟨e, hext, hlower, fun he => hother (by rw [hext, he])⟩
  · rintro ⟨e, hext, hlower, hne⟩
    refine ⟨fun hother => hne ?_, e, hext, hlower⟩
    rw [hext, Option.some.injEq] at hother
    exact Path.ofText_injective hother

/-- Every other name has one format. -/
theorem formatOf_eq_iff (path : Path) :
    formatOf path = .ofPath path ↔ ¬ HasCapitals path := by
  have hlower : Config.Format.ofPath path = .toml → formatOf path = .toml := fun h =>
    formatOf_eq_toml_iff.mpr ⟨"toml", ofPath_eq_toml_iff.mp h, by decide +kernel⟩
  rw [← formats_differ_iff]
  cases hlibrary : Config.Format.ofPath path with
  | json => cases formatOf path <;> simp
  | toml => simp [hlower hlibrary]

/-! ### Loading -/

/-- That two ways of loading come to the same: the same document, or none. -/
inductive Agree : Except LoadError Config.Document → Except Failure Found → Prop
  /-- Both give the document. -/
  | loaded (source : Option (Origin × Path)) (document : Config.Document) :
      Agree (.ok document) (.ok ⟨source, document⟩)
  /-- Both give up. -/
  | refused (cause : LoadError) (f : Failure) : Agree (.error cause) (.error f)

section Loading

variable {σ : Type} {files : FileAccess (StateM σ)} {s : Surroundings} {path : Path} {t : σ}

/-- Both begin with the text of the file. -/
private theorem run_readText {β : Type} (k : Except FileError String → StateM σ β) :
    (files.readText path >>= k) t = k (files.readText path t).1 (files.readText path t).2 := rfl

/-- A path that is given is not looked for. -/
theorem load_some : (load files s (some path) t).1
    = (read files path t).1.map (⟨some (.option, path), ·⟩) := rfl

theorem load_of_unreadable {cause : FileError} (h : (files.readText path t).1 = .error cause) :
    (Config.Document.load files path t).1 = .error (.unreadable path cause) ∧
      (load files s (some path) t).1 = .error (.unreadableConfig path cause) := by
  rw [load_some, Config.Document.load, read, run_readText, run_readText, h]
  exact ⟨rfl, rfl⟩

/-- What a file is read as depends on its text and on the format alone. -/
theorem load_of_text {text : String} (h : (files.readText path t).1 = .ok text) :
    (Config.Document.load files path t).1 = Config.Document.parse (.ofPath path) text ∧
      (load files s (some path) t).1
        = ((Config.Document.parse (formatOf path) text).mapError (.malformedConfig path)).map
            (⟨some (.option, path), ·⟩) := by
  rw [load_some, Config.Document.load, read, run_readText, run_readText, h]
  refine ⟨rfl, ?_⟩
  cases hparse : Config.Document.parse (formatOf path) text <;> simp only [hparse] <;> rfl

end Loading

/-! ### The name that divides them -/

theorem Agree.isOk_eq {r : Except LoadError Config.Document} {r' : Except Failure Found}
    (h : Agree r r') : r.isOk = r'.isOk := by
  cases h <;> rfl

/-- Whether the two agree about a text is decided by the name, unless neither can read it. -/
theorem agree_parse_iff (path : Path) (text : String) (source : Option (Origin × Path)) :
    let library := Config.Document.parse (.ofPath path) text
    let command := ((Config.Document.parse (formatOf path) text).mapError
      (.malformedConfig path)).map (⟨source, ·⟩)
    Agree library command ↔
      ¬ HasCapitals path ∨ (library.isOk = false ∧ command.isOk = false) := by
  by_cases hcapitals : HasCapitals path
  · obtain ⟨hlibrary, hcommand⟩ := (formats_differ_iff path).mpr hcapitals
    rw [hlibrary, hcommand]
    cases hjson : Config.Document.parse .json text with
    | ok document =>
        rw [Config.Document.parse_toml_of_json hjson]
        refine iff_of_false (fun hagree => absurd hagree.isOk_eq Bool.noConfusion) ?_
        rintro (hname | ⟨hread, -⟩)
        · exact hname hcapitals
        · cases hread
    | error cause =>
        cases Config.Document.parse .toml text with
        | ok document =>
            refine iff_of_false (fun hagree => absurd hagree.isOk_eq Bool.noConfusion) ?_
            rintro (hname | ⟨-, hread⟩)
            · exact hname hcapitals
            · cases hread
        | error cause' => exact iff_of_true (.refused _ _) (Or.inr ⟨rfl, rfl⟩)
  · rw [(formatOf_eq_iff path).mpr hcapitals]
    refine iff_of_true ?_ (Or.inl hcapitals)
    cases Config.Document.parse (.ofPath path) text with
    | ok document => exact .loaded source document
    | error cause => exact .refused _ _

/--
**The two ways of loading agree on all files but those whose extension is TOML's in capitals.**
On such a file they take different formats, and agree only if neither of them can read it.
-/
theorem load_agrees_iff {σ : Type} (files : FileAccess (StateM σ)) (s : Surroundings)
    (path : Path) (t : σ) :
    let library := (Config.Document.load files path t).1
    let command := (load files s (some path) t).1
    (formatOf path = .ofPath path ↔ ¬ HasCapitals path) ∧
      ((Config.Format.ofPath path = .json ∧ formatOf path = .toml) ↔ HasCapitals path) ∧
      (Agree library command ↔
        ¬ HasCapitals path ∨ (library.isOk = false ∧ command.isOk = false)) := by
  refine ⟨formatOf_eq_iff path, formats_differ_iff path, ?_⟩
  cases htext : (files.readText path t).1 with
  | error cause =>
      obtain ⟨hlibrary, hcommand⟩ := load_of_unreadable (s := s) htext
      rw [hlibrary, hcommand]
      exact iff_of_true (.refused _ _) (Or.inr ⟨rfl, rfl⟩)
  | ok text =>
      obtain ⟨hlibrary, hcommand⟩ := load_of_text (s := s) htext
      rw [hlibrary, hcommand]
      exact agree_parse_iff path text _

/-- A directory with two configurations whose extension is in capitals, one in either format. -/
def capitalFiles : FileTree where
  nodes := [(["A.TOML"], .file "skip_one_char_variables = true\n".toUTF8),
    (["B.Toml"], .file "\x7b\"skip_one_char_variables\": true\x7d".toUTF8)]

/-- Each of the two files is read in one way and refused in the other. -/
theorem capitals_divide_readers :
    let library := fun path => (Config.Document.load FileTree.access path capitalFiles).1
    let command := fun path => (load FileTree.access {} (some path) capitalFiles).1
    HasCapitals "A.TOML" ∧ HasCapitals "B.Toml" ∧
      (library "A.TOML").isOk = false ∧ (command "A.TOML").isOk = true ∧
      (library "B.Toml").isOk = true ∧ (command "B.Toml").isOk = false ∧
      ¬ Agree (library "A.TOML") (command "A.TOML") ∧
      ¬ Agree (library "B.Toml") (command "B.Toml") := by
  intro library command
  have hlibraryA : (library "A.TOML").isOk = false := by decide +kernel
  have hcommandA : (command "A.TOML").isOk = true := by decide +kernel
  have hlibraryB : (library "B.Toml").isOk = true := by decide +kernel
  have hcommandB : (command "B.Toml").isOk = false := by decide +kernel
  refine ⟨⟨"TOML", by decide +kernel, by decide +kernel, by decide⟩,
    ⟨"Toml", by decide +kernel, by decide +kernel, by decide⟩,
    hlibraryA, hcommandA, hlibraryB, hcommandB, fun hagree => ?_, fun hagree => ?_⟩
  · have hok := hagree.isOk_eq
    rw [hlibraryA, hcommandA] at hok
    cases hok
  · have hok := hagree.isOk_eq
    rw [hlibraryB, hcommandB] at hok
    cases hok

end Command.Lookup

end NameLint
