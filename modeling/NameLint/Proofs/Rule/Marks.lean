/-
Blanks around pointer and reference marks.

Front ends write `char *p`, `char* p` and `char * p`, and a table of prefixes is written by
hand.  Blanks in front of a mark never count.  Behind a mark it is another matter: how long
the gap is and where it goes on to another mark does not count, but whether there is a gap
does, so `char *const` and `char * const` are two types (`gap_behind_mark_counts`).

`canonical_eq_iff_of_differAroundMarks` says that this is all.  The main statement takes it
to the rule for names: a prefix written for one spelling is asked of the names declared with
another one exactly in so far as the gaps behind marks agree.
-/
import Mathlib.Logic.Relation
import NameLint.Proofs.Dump.NormalForm
import NameLint.Proofs.Rule.Prefixes

namespace NameLint

namespace TypeSpelling

open Text (isBlank)

/-! ### Texts that differ by blanks around marks -/

/-- That the second text has one more blank than the first, right in front of or behind a mark. -/
def PaddedMark (cs ds : List Char) : Prop :=
  ∃ front mark back blank, isMark mark = true ∧ isBlank blank = true ∧
    cs = front ++ mark :: back ∧
      (ds = front ++ blank :: mark :: back ∨ ds = front ++ mark :: blank :: back)

/-- That two texts differ only by blanks right in front of or right behind marks. -/
def DifferAroundMarks : List Char → List Char → Prop :=
  Relation.EqvGen PaddedMark

theorem isBlank_of_isMark {c : Char} (h : isMark c = true) : isBlank c = false := by
  rcases (by simpa [isMark] using h : c = '*' ∨ c = '&') with rfl | rfl <;> decide

theorem solid_insert {blank : Char} (hblank : isBlank blank = true) (front back : List Char) :
    solid (front ++ blank :: back) = solid (front ++ back) := by
  rw [solid_append, solid_append, solid_cons_of_isBlank hblank]

/-- One more blank makes a gap at its place and leaves the others as they are. -/
theorem gapAt_insert {blank : Char} (hblank : isBlank blank = true) (front back : List Char)
    (i : Nat) : GapAt (front ++ blank :: back) i ↔
      i = (solid front).length ∨ GapAt (front ++ back) i := by
  induction front generalizing i with
  | nil => exact gapAt_cons_of_isBlank hblank back i
  | cons c front ih =>
      rw [List.cons_append, List.cons_append]
      by_cases hc : isBlank c = true
      · rw [gapAt_cons_of_isBlank hc, gapAt_cons_of_isBlank hc, ih, solid_cons_of_isBlank hc]
        exact or_left_comm
      · rw [solid_cons hc, List.length_cons]
        cases i with
        | zero => simp [hc]
        | succ i => rw [gapAt_cons_succ hc, gapAt_cons_succ hc, ih, Nat.add_right_cancel_iff]

/-- That the text has a mark on one of the two sides of a place. -/
def BesideMark (cs : List Char) (i : Nat) : Prop :=
  (∃ mark, (solid cs)[i]? = some mark ∧ isMark mark = true) ∨
    ∃ j mark, i = j + 1 ∧ (solid cs)[j]? = some mark ∧ isMark mark = true

theorem gapAt_iff_of_paddedMark {cs ds : List Char} (h : PaddedMark cs ds) :
    solid cs = solid ds ∧ ∀ i, ¬ BesideMark cs i → (GapAt cs i ↔ GapAt ds i) := by
  obtain ⟨front, mark, back, blank, hmark, hblank, rfl, hpadded⟩ := h
  have hsolid : ¬ isBlank mark = true := by simp [isBlank_of_isMark hmark]
  have hplace : (solid (front ++ mark :: back))[(solid front).length]? = some mark := by
    rw [solid_append, solid_cons hsolid, List.getElem?_append_right (Nat.le_refl _)]
    simp
  rcases hpadded with rfl | rfl
  · refine ⟨(solid_insert hblank front _).symm, fun i hbeside => ?_⟩
    have hi : i ≠ (solid front).length := by
      rintro rfl
      exact hbeside (Or.inl ⟨mark, hplace, hmark⟩)
    simp [gapAt_insert hblank, hi]
  · have hkept := solid_insert hblank (front ++ [mark]) back
    have hgap := gapAt_insert hblank (front ++ [mark]) back
    have hlength : (solid (front ++ [mark])).length = (solid front).length + 1 := by
      rw [solid_append, solid_cons hsolid, List.length_append]
      rfl
    simp only [List.append_assoc, List.singleton_append, hlength] at hkept hgap
    refine ⟨hkept.symm, fun i hbeside => ?_⟩
    have hi : i ≠ (solid front).length + 1 := fun h =>
      hbeside (Or.inr ⟨_, mark, h, hplace, hmark⟩)
    simp [hgap, hi]

theorem gapAt_iff_of_differAroundMarks {cs ds : List Char} (h : DifferAroundMarks cs ds) :
    solid cs = solid ds ∧ ∀ i, ¬ BesideMark cs i → (GapAt cs i ↔ GapAt ds i) := by
  have hcongr : ∀ {cs ds : List Char} {i : Nat}, solid cs = solid ds →
      (BesideMark cs i ↔ BesideMark ds i) := by
    intro cs ds i hsolid
    unfold BesideMark
    rw [hsolid]
  induction h with
  | rel cs ds hpadded => exact gapAt_iff_of_paddedMark hpadded
  | refl cs => exact ⟨rfl, fun i _ => Iff.rfl⟩
  | symm cs ds _ ih =>
      obtain ⟨hsolid, hgaps⟩ := ih
      exact ⟨hsolid.symm, fun i hbeside => (hgaps i fun h => hbeside ((hcongr hsolid).mp h)).symm⟩
  | trans cs ds es _ _ ihleft ihright =>
      obtain ⟨hleft, hgapsleft⟩ := ihleft
      obtain ⟨hright, hgapsright⟩ := ihright
      refine ⟨hleft.trans hright, fun i hbeside => (hgapsleft i hbeside).trans ?_⟩
      exact hgapsright i fun h => hbeside ((hcongr hleft).mpr h)

/-- That two texts with the same characters agree on the gaps between a mark and what is no mark. -/
def AgreeBehindMarks (cs ds : List Char) : Prop :=
  ∀ i mark c, (solid cs)[i]? = some mark → isMark mark = true →
    (solid cs)[i + 1]? = some c → isMark c = false → (GapAt cs (i + 1) ↔ GapAt ds (i + 1))

/-- Of the blanks around marks only the gaps behind marks count, and not those in front of marks. -/
theorem canonical_eq_iff_of_differAroundMarks {s t : String}
    (h : DifferAroundMarks s.toList t.toList) :
    canonical s = canonical t ↔ AgreeBehindMarks s.toList t.toList := by
  obtain ⟨hsolid, hgaps⟩ := gapAt_iff_of_differAroundMarks h
  rw [canonical_eq_iff]
  constructor
  · rintro ⟨-, hagree⟩ i mark c _ _ hc hcmark
    exact hagree (i + 1) c (Nat.succ_pos i) hc hcmark
  · intro hagree
    refine ⟨hsolid, fun i c hi hc hcmark => ?_⟩
    obtain ⟨j, rfl⟩ := Nat.exists_eq_add_one_of_ne_zero (Nat.ne_of_gt hi)
    by_cases hbeside : BesideMark s.toList (j + 1)
    · rcases hbeside with ⟨mark, hmark, hismark⟩ | ⟨k, mark, hk, hmark, hismark⟩
      · rw [hc, Option.some.injEq] at hmark
        rw [hmark, hismark] at hcmark
        cases hcmark
      · rw [← Nat.succ.inj hk] at hmark
        exact hagree j mark c hmark hismark hc hcmark
    · exact hgaps (j + 1) hbeside

end TypeSpelling

namespace Naming

open TypeSpelling (canonical DifferAroundMarks AgreeBehindMarks)
open Config (tableOf dictOf)

/-! ### Prefixes -/

/-- With the last entry for its type known, a name lacks the prefix of that entry or none. -/
theorem lacksPrefix_iff {before after : List (String × String)} {key required type name : String}
    (hkey : canonical key = canonical type) (hafter : ∀ e ∈ after, canonical e.1 ≠ canonical key) :
    LacksPrefix (before ++ (key, required) :: after) type name ↔
      ¬ required.toList <+: name.toList := by
  have hfind : (tableOf (before ++ (key, required) :: after)).find? (canonical type)
      = some required :=
    find?_tableOf_eq_some.mpr ⟨before, key, after, rfl, hkey, fun e he => hkey ▸ hafter e he⟩
  rw [← isSome_missing?_tableOf, PrefixTable.missing?, hfind, ← List.isPrefixOf_iff_prefix]
  cases hstarts : required.toList.isPrefixOf name.toList <;> simp [Option.filter, hstarts]

section Documents

variable {document : Config.Document} {before after : List (String × String)}
  {key required : String}

/-- A prefix written for a type is asked of the variables of that type, in whatever spelling. -/
theorem check_variable_of_prefix (hkeys : (document.map Prod.fst).Nodup)
    (hafter : ∀ e ∈ after, canonical e.1 ≠ canonical key)
    (hentries : ("var_prefixes", dictOf (before ++ (key, required) :: after)) ∈ document)
    (severity : Severity) {v : Variable} (hkey : canonical key = canonical v.declaredType) :
    check severity (Config.validate document).settings
        (CompilationUnit.canonicalized { vars := [v] })
      = prefixReport severity (.variable v) (¬ required.toList <+: v.name.toList)
        ++ check severity (Config.validate document).settings.withoutPrefixes
          { vars := [v] } := by
  have htable := Config.variablePrefixes_of_mem hkeys hentries
  have hreport : prefixReport severity (.variable v)
      (LacksPrefix (before ++ (key, required) :: after) v.declaredType v.name)
        = prefixReport severity (.variable v) (¬ required.toList <+: v.name.toList) :=
    prefixReport_congr rfl (lacksPrefix_iff hkey hafter)
  have hsymbol := (checkSymbol_variable htable v : checkSymbol severity _ _ = _)
  rw [hreport, ← check_single, ← check_single] at hsymbol
  exact hsymbol

/-- And so it is of the functions that return it, constructors apart. -/
theorem check_function_of_prefix (hkeys : (document.map Prod.fst).Nodup)
    (hafter : ∀ e ∈ after, canonical e.1 ≠ canonical key)
    (hentries : ("function_prefixes", dictOf (before ++ (key, required) :: after)) ∈ document)
    (severity : Severity) {f : Function} (hkey : canonical key = canonical f.returnType)
    (hconstructor : f.isConstructor = false) (hvoid : canonical f.returnType ≠ "") :
    check severity (Config.validate document).settings
        (CompilationUnit.canonicalized { functions := [f] })
      = prefixReport severity (.function f) (¬ required.toList <+: f.name.toList)
        ++ check severity (Config.validate document).settings.withoutPrefixes
          { functions := [f] } := by
  have htable := Config.functionPrefixes_of_mem hkeys hentries
  have hlacks : (f.isConstructor = false ∧ canonical f.returnType ≠ "" ∧
      LacksPrefix (before ++ (key, required) :: after) f.returnType f.name)
        ↔ ¬ required.toList <+: f.name.toList := by
    rw [lacksPrefix_iff hkey hafter]
    simp [hconstructor, hvoid]
  have hsymbol := (checkSymbol_function htable f : checkSymbol severity _ _ = _)
  rw [prefixReport_congr rfl hlacks, ← check_single, ← check_single] at hsymbol
  exact hsymbol

end Documents

/-! ### Spellings that differ around marks -/

/--
**Of the blanks around marks only those count that stand between a mark and what is no
mark, and of them only whether there are any.**  Spellings that differ in nothing but blanks
around marks are spellings of one type exactly if they agree on that.  Then a prefix that a
configuration asks for with one of them is asked of every variable and every function that
is declared with the other: a name is reported for it exactly if it does not start with it.
-/
theorem asked_alike_around_marks {s t : String} (h : DifferAroundMarks s.toList t.toList) :
    (canonical s = canonical t ↔ AgreeBehindMarks s.toList t.toList) ∧
      (AgreeBehindMarks s.toList t.toList →
        ∀ (document : Config.Document) (before after : List (String × String)) (required : String),
          (document.map Prod.fst).Nodup → (∀ e ∈ after, canonical e.1 ≠ canonical s) →
          ∀ severity : Severity,
            (("var_prefixes", dictOf (before ++ (s, required) :: after)) ∈ document →
              ∀ v : Variable, v.declaredType = t →
                check severity (Config.validate document).settings
                    (CompilationUnit.canonicalized { vars := [v] })
                  = prefixReport severity (.variable v) (¬ required.toList <+: v.name.toList)
                    ++ check severity (Config.validate document).settings.withoutPrefixes
                      { vars := [v] }) ∧
            (("function_prefixes", dictOf (before ++ (s, required) :: after)) ∈ document →
              ∀ f : Function, f.returnType = t → f.isConstructor = false → canonical t ≠ "" →
                check severity (Config.validate document).settings
                    (CompilationUnit.canonicalized { functions := [f] })
                  = prefixReport severity (.function f) (¬ required.toList <+: f.name.toList)
                    ++ check severity (Config.validate document).settings.withoutPrefixes
                      { functions := [f] })) := by
  have hsame := TypeSpelling.canonical_eq_iff_of_differAroundMarks h
  refine ⟨hsame, fun hagree document before after required hkeys hafter severity => ?_⟩
  have htype : canonical s = canonical t := hsame.mpr hagree
  constructor
  · rintro hentries v rfl
    exact check_variable_of_prefix hkeys hafter hentries severity htype
  · rintro hentries f rfl hconstructor hvoid
    exact check_function_of_prefix hkeys hafter hentries severity htype hconstructor hvoid

/-- A prefix for a type written with four blanks, and a variable of the type written with two. -/
theorem asked_alike_around_marks_of_constant_pointer :
    let document : Config.Document := [("var_prefixes", dictOf [("char * const &", "p")])]
    let v : Variable := ⟨"name", "char* const&", .function, ⟨"a.c", 1, 2⟩⟩
    DifferAroundMarks "char * const &".toList "char* const&".toList ∧
      AgreeBehindMarks "char * const &".toList "char* const&".toList ∧
      check .style (Config.validate document).settings
        (CompilationUnit.canonicalized { vars := [v] })
          = [prefixViolation .style (.variable v)] := by
  intro document v
  have hfirst : TypeSpelling.PaddedMark "char* const &".toList "char * const &".toList :=
    ⟨"char".toList, '*', " const &".toList, ' ', by decide, by decide, by decide, .inl (by decide)⟩
  have hsecond : TypeSpelling.PaddedMark "char* const&".toList "char* const &".toList :=
    ⟨"char* const".toList, '&', [], ' ', by decide, by decide, by decide, .inl (by decide)⟩
  have hdiffer : DifferAroundMarks "char * const &".toList "char* const&".toList :=
    .trans _ _ _ (.symm _ _ (.rel _ _ hfirst)) (.symm _ _ (.rel _ _ hsecond))
  have htype : canonical "char * const &" = canonical "char* const&" := by decide +kernel
  obtain ⟨hsame, hasked⟩ := asked_alike_around_marks hdiffer
  have hreport := (hasked (hsame.mp htype) document [] [] "p" (by decide)
    (fun e he => by cases he) .style).1 (List.mem_singleton_self _) v rfl
  refine ⟨hdiffer, hsame.mp htype, hreport.trans ?_⟩
  have hlacks : ¬ "p".toList <+: v.name.toList := by decide +kernel
  rw [prefixReport, if_pos hlacks]
  rfl

/--
A gap behind a mark makes another type: the two spellings differ by one blank right behind
a mark, and what is asked with the one is not asked of a name that is declared with the other.
-/
theorem gap_behind_mark_counts :
    let document : Config.Document := [("var_prefixes", dictOf [("char *const", "p")])]
    let v : Variable := ⟨"name", "char * const", .function, ⟨"a.c", 1, 2⟩⟩
    DifferAroundMarks "char *const".toList "char * const".toList ∧
      canonical "char *const" ≠ canonical "char * const" ∧
      check .style (Config.validate document).settings
        (CompilationUnit.canonicalized { vars := [v] }) = [] := by
  have hpadded : TypeSpelling.PaddedMark "char *const".toList "char * const".toList :=
    ⟨"char ".toList, '*', "const".toList, ' ', by decide, by decide, by decide, .inr (by decide)⟩
  exact ⟨.rel _ _ hpadded, by decide +kernel, by decide +kernel⟩

end Naming

end NameLint
