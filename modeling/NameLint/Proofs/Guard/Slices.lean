/-
The scanner with every slice checked.

Places in a line are counted in bytes, and the counts are taken in the blanked line: where
its blanks end, and how much of it is left behind the keyword.  Then text is cut out of the
line as it is written at these places.  A cut fails if a place is behind the end of the text
or inside of a character, a count fails if what is left is longer than the whole, and the
blanked bytes might not be those of a text any more.

`sliced?` is the scanner that stops at any of these, and `sliced?_eq` says that it never
stops and finds what `scan` finds.  So the token that is found is the text of the line, cut
out at its place, and not only equal to a word of the blanked line.
-/
import NameLint.Proofs.Guard.Bytes
import NameLint.Proofs.Guard.Opening

namespace NameLint.Guard

open TypeSpelling (IsWord isWord_of_mem_words)
open Text (byteCount trimStart words isBlank)

/-! ### Slices -/

/-- The text between two places; none if they are not places between characters, in this order. -/
def slice? (first last : Nat) (text : List Char) : Option (List Char) :=
  (splitBytes? last text).bind fun p => (splitBytes? first p.1).map Prod.snd

/-- The number of bytes in front of a rest of the text; none if the rest has more than the text. -/
def bytesBefore? (text rest : List Char) : Option Nat :=
  if byteCount rest ≤ byteCount text then some (byteCount text - byteCount rest) else none

theorem splitBytes?_eq_some_iff {n : Nat} {text front back : List Char} :
    splitBytes? n text = some (front, back) ↔ text = front ++ back ∧ byteCount front = n := by
  constructor
  · intro h
    induction text generalizing n front with
    | nil =>
        by_cases hn : n = 0
        · obtain ⟨rfl, rfl⟩ : [] = front ∧ [] = back := by simpa [splitBytes?, hn] using h
          exact ⟨rfl, hn.symm⟩
        · simp [splitBytes?, hn] at h
    | cons c text ih =>
        by_cases hn : n = 0
        · obtain ⟨rfl, rfl⟩ : [] = front ∧ c :: text = back := by simpa [splitBytes?, hn] using h
          exact ⟨rfl, hn.symm⟩
        · rw [splitBytes?, if_neg hn] at h
          by_cases hc : c.utf8Size ≤ n
          · rw [if_pos hc, Option.map_eq_some_iff] at h
            obtain ⟨⟨rest, tail⟩, hrest, hsplit⟩ := h
            obtain ⟨rfl, rfl⟩ : c :: rest = front ∧ tail = back := by simpa using hsplit
            obtain ⟨rfl, hbytes⟩ := ih hrest
            refine ⟨rfl, ?_⟩
            rw [byteCount, hbytes]
            omega
          · simp [hc] at h
  · rintro ⟨rfl, rfl⟩
    exact splitBytes?_append front back

theorem utf8ByteSize_ofList (cs : List Char) : (String.ofList cs).utf8ByteSize = byteCount cs := by
  induction cs with
  | nil => rfl
  | cons c cs ih =>
      rw [← List.singleton_append, String.ofList_append, String.utf8ByteSize_append, ih,
        ← String.singleton_eq_ofList, String.utf8ByteSize_singleton]
      rfl

/-- A cut succeeds exactly at the places of the text that lie between characters. -/
theorem isSome_splitBytes?_iff (n : Nat) (text : List Char) :
    (splitBytes? n text).isSome = true ↔ String.Pos.Raw.IsValid (String.ofList text) ⟨n⟩ := by
  rw [Option.isSome_iff_exists, String.Pos.Raw.isValid_ofList]
  constructor
  · rintro ⟨⟨front, back⟩, hsplit⟩
    obtain ⟨rfl, rfl⟩ := splitBytes?_eq_some_iff.mp hsplit
    exact ⟨front.length, by rw [List.take_left, utf8ByteSize_ofList]⟩
  · rintro ⟨i, hi⟩
    rw [utf8ByteSize_ofList] at hi
    exact ⟨(text.take i, text.drop i),
      splitBytes?_eq_some_iff.mpr ⟨(List.take_append_drop i text).symm, hi.symm⟩⟩

theorem slice?_eq_some_iff {first last : Nat} {text word : List Char} :
    slice? first last text = some word ↔ ∃ front back, text = front ++ word ++ back ∧
      byteCount front = first ∧ byteCount (front ++ word) = last := by
  rw [slice?, Option.bind_eq_some_iff]
  constructor
  · rintro ⟨⟨taken, back⟩, htaken, hword⟩
    rw [Option.map_eq_some_iff] at hword
    obtain ⟨⟨front, rest⟩, hfront, rfl⟩ := hword
    obtain ⟨rfl, hlast⟩ := splitBytes?_eq_some_iff.mp htaken
    obtain ⟨rfl, hfirst⟩ := splitBytes?_eq_some_iff.mp hfront
    exact ⟨front, back, rfl, hfirst, hlast⟩
  · rintro ⟨front, back, rfl, hfirst, hlast⟩
    refine ⟨(front ++ word, back), splitBytes?_eq_some_iff.mpr ⟨rfl, hlast⟩, ?_⟩
    rw [splitBytes?_eq_some_iff.mpr ⟨rfl, hfirst⟩]
    rfl

theorem bytesBefore?_append (front rest : List Char) :
    bytesBefore? (front ++ rest) rest = some (byteCount front) := by
  rw [bytesBefore?, byteCount_append, if_pos (Nat.le_add_left _ _), Nat.add_sub_cancel]

/-! ### The scanner -/

/--
What a directive holds, the token and the columns taken from the line as it is written;
`signAt` is the place of the sign in the blanked line.
-/
def slicedDirective? (number : Nat) (line code directive : List Char) (signAt : Nat) :
    Option Scan :=
  match afterKeyword? (trimStart directive.tail) with
  | none => some .missing
  | some rest =>
    if rest.head?.any continuesWord then some .missing
    else
      let args := trimStart rest
      (bytesBefore? code args).bind fun tokenAt =>
        match words args with
        | [token] =>
          (slice? tokenAt (tokenAt + byteCount token) line).bind fun written =>
            (slice? 0 tokenAt line).map fun front => .found written number (front.length + 1)
        | _ => (slice? 0 signAt line).map fun front => .invalid number (front.length + 1)

/-- What a line holds. -/
def slicedLine? (number : Nat) (line code : List Char) : Option (Option Scan) :=
  (bytesBefore? code (trimStart code)).bind fun signAt =>
    (slice? signAt (byteCount code) code).bind fun directive =>
      if directive.head? = some '#' then
        (slicedDirective? number line code directive signAt).map some
      else some none

/-- What the first directive of some lines holds. -/
def slicedFrom? (inBlock : Bool) (number : Nat) : List (List Char) → Option Scan
  | [] => some .missing
  | raw :: rest =>
    let line := if number = 1 then withoutMark raw else raw
    let (bytes, inBlock) := blankedBytes inBlock (encoded line)
    (decoded? bytes).bind fun code =>
      (slicedLine? number line code).bind fun
        | some scan => some scan
        | none => slicedFrom? inBlock (number + 1) rest

/-- What the leading lines of a header hold; none if anything was cut out of place. -/
def sliced? (lines : List String) (limit : Nat) : Option Scan :=
  slicedFrom? false 1 ((lines.take limit).map String.toList)

/-! ### Nothing is cut out of place -/

/-- A text without spaces is cut out of the line by its place in the code. -/
theorem slices_of_masked {line code before word after : List Char} (h : Masked line code)
    (hcode : code = before ++ (word ++ after)) (hne : word ≠ []) (hword : ' ' ∉ word) :
    ∃ front, slice? 0 (byteCount before) line = some front ∧
      columnAt line (byteCount before) = front.length + 1 ∧
      slice? (byteCount before) (byteCount before + byteCount word) line = some word := by
  subst hcode
  obtain ⟨front, back, rfl, hbytes⟩ := h.exists_place hne hword
  rw [← hbytes, ← byteCount_append]
  refine ⟨front, ?_, ?_, ?_⟩
  · exact slice?_eq_some_iff.mpr ⟨[], word ++ back, by simp, rfl, rfl⟩
  · rw [List.append_assoc, columnAt_append]
  · exact slice?_eq_some_iff.mpr ⟨front, back, rfl, rfl, rfl⟩

theorem slicedDirective?_eq {number : Nat} {line code before rest : List Char}
    (h : Masked line code) (hcode : code = before ++ '#' :: rest) :
    slicedDirective? number line code ('#' :: rest) (byteCount before)
      = some (directiveScan number line code ('#' :: rest)) := by
  unfold slicedDirective? directiveScan
  rw [List.tail_cons]
  cases hkey : afterKeyword? (trimStart rest) with
  | none => rfl
  | some args =>
      by_cases hlonger : args.head?.any continuesWord = true
      · simp only [if_pos hlonger]
      · simp only [if_neg hlonger]
        obtain ⟨front, hargs⟩ := exists_front_of_keyword hcode hkey
        have hcount : byteCount code - byteCount (trimStart args) = byteCount front := by
          rw [hargs, byteCount_append, Nat.add_sub_cancel]
        have hsign : byteCount code - byteCount ('#' :: rest) = byteCount before := by
          rw [hcode, byteCount_append, Nat.add_sub_cancel]
        have hplace : bytesBefore? code (trimStart args) = some (byteCount front) := by
          rw [hargs, bytesBefore?_append]
        rw [hplace, Option.bind_some, hcount, hsign]
        obtain ⟨start, hstart, hcolumn, -⟩ :=
          slices_of_masked h (show code = before ++ (['#'] ++ rest) from hcode)
            (List.cons_ne_nil _ _) (by decide)
        rcases hwords : words (trimStart args) with _ | ⟨token, _ | ⟨next, more⟩⟩
        · simp only [hstart, hcolumn, Option.map_some]
        · have htoken : IsWord token := isWord_of_mem_words token (by rw [hwords]; simp)
          rw [Text.words_trimStart] at hwords
          obtain ⟨after, hafter⟩ := Text.prefix_of_words hwords
          rw [← hafter] at hargs
          obtain ⟨lead, hlead, htokenColumn, hwritten⟩ :=
            slices_of_masked h hargs htoken.1 (space_not_mem_of_isWord htoken)
          simp only [hwritten, hlead, htokenColumn, Option.bind_some, Option.map_some]
        · simp only [hstart, hcolumn, Option.map_some]

theorem slicedLine?_eq {number : Nat} {line code : List Char} (h : Masked line code) :
    slicedLine? number line code = some (lineScan? number line code) := by
  obtain ⟨gap, hgap⟩ := exists_gap code
  have hplace := bytesBefore?_append gap (trimStart code)
  rw [← hgap] at hplace
  have hdirective : slice? (byteCount gap) (byteCount code) code = some (trimStart code) :=
    slice?_eq_some_iff.mpr ⟨gap, [], by simpa using hgap, rfl, by rw [← hgap]⟩
  rw [slicedLine?, hplace, Option.bind_some, hdirective, Option.bind_some]
  unfold lineScan?
  by_cases hhead : (trimStart code).head? = some '#'
  · obtain ⟨rest, hrest⟩ := List.head?_eq_some_iff.mp hhead
    rw [hrest] at hgap
    simp only [hrest, List.head?_cons, if_true, slicedDirective?_eq h hgap, Option.map_some]
  · simp only [if_neg hhead]

theorem slicedFrom?_eq : ∀ (lines : List (List Char)) (inBlock : Bool) (number : Nat),
    slicedFrom? inBlock number lines = some (scanFrom inBlock number lines) := by
  intro lines
  induction lines with
  | nil => intro inBlock number; rfl
  | cons raw rest ih =>
      intro inBlock number
      rw [slicedFrom?, scanFrom_cons]
      generalize (if number = 1 then withoutMark raw else raw) = line
      simp only [blankedBytes_encoded, decoded?_encoded, Option.bind_some,
        slicedLine?_eq (masked_blanked inBlock line), ih]
      cases lineScan? number line (blanked inBlock line).1 <;> rfl

/-- **The scanner cuts nothing out of place**, and the text that it cuts out is what it finds. -/
theorem sliced?_eq (lines : List String) (limit : Nat) :
    sliced? lines limit = some (scan lines limit) :=
  slicedFrom?_eq _ false 1

/-! ### Places -/

theorem bounds_of_headerLine? {lines : List String} {n : Nat} {text : List Char}
    (h : headerLine? lines n = some text) : 1 ≤ n ∧ n ≤ lines.length := by
  cases n with
  | zero => cases h
  | succ i =>
      obtain ⟨raw, hraw, -⟩ := Option.map_eq_some_iff.mp h
      have hlt := (List.getElem?_eq_some_iff.mp hraw).1
      omega

/-- What stands in a header stands on one of its lines. -/
theorem StandsIn.exists_line {lines : List String} {limit line column : Nat} {text : List Char}
    (h : StandsIn lines limit line column text) : 1 ≤ line ∧ line ≤ min limit lines.length ∧
      ∃ l, headerLine? lines line = some l ∧ StandsAt l column text := by
  obtain ⟨hlimit, l, hline, hstands⟩ := h
  obtain ⟨hfirst, hlast⟩ := bounds_of_headerLine? hline
  exact ⟨hfirst, by omega, l, hline, hstands⟩

/--
**The scanner cuts nothing out of place, and what it finds is where it says.**  With every
slice checked it finds the same.  A token that is found is a word, and it is the text that
stands on the line and from the column that are given; and at the place of a guard that is
not valid stands the sign of a directive.  The line is one of the header and within the
limit, and the byte order mark is no part of it.
-/
theorem scan_in_place (lines : List String) (limit : Nat) :
    sliced? lines limit = some (scan lines limit) ∧
      (∀ token line column, scan lines limit = .found token line column →
        IsWord token ∧ 1 ≤ line ∧ line ≤ min limit lines.length ∧
          ∃ l, headerLine? lines line = some l ∧ StandsAt l column token) ∧
      ∀ line column, scan lines limit = .invalid line column →
        1 ≤ line ∧ line ≤ min limit lines.length ∧
          ∃ l, headerLine? lines line = some l ∧ StandsAt l column ['#'] := by
  refine ⟨sliced?_eq lines limit, ?_, ?_⟩
  · intro token line column hfound
    obtain ⟨htoken, hstands⟩ := scan_found hfound
    exact ⟨htoken, hstands.exists_line⟩
  · intro line column hinvalid
    exact (scan_invalid hinvalid).exists_line

/-- Wide characters in comments and in the token, and a guard without a name behind a comment. -/
theorem scan_in_place_of_wide_characters :
    let header := ["\uFEFF/* é", "ü */", "#ifndef Größe_H"]
    let unnamed := ["/* é */ #ifndef"]
    sliced? header 5 = some (.found "Größe_H".toList 3 9) ∧
      (∃ l, headerLine? header 3 = some l ∧ StandsAt l 9 "Größe_H".toList) ∧
      sliced? unnamed 5 = some (.invalid 1 9) ∧
        ∃ l, headerLine? unnamed 1 = some l ∧ StandsAt l 9 ['#'] := by
  intro header unnamed
  have htoken : IsToken "Größe_H".toList :=
    ⟨by decide +kernel, by decide +kernel, by decide +kernel⟩
  have hquiet : Quiet ["/* é".toList, "ü */".toList] := ⟨by decide +kernel, by decide +kernel⟩
  have hlines : unmarked header = ["/* é".toList, "ü */".toList]
      ++ opening "Größe_H".toList :: [] := by decide +kernel
  have hfound : scan header 5 = .found "Größe_H".toList 3 9 :=
    scan_opening hlines hquiet (by decide) htoken
  have hinvalid : scan unnamed 5 = .invalid 1 9 := by decide +kernel
  obtain ⟨hslices, htokens, -⟩ := scan_in_place header 5
  obtain ⟨hsigns, -, hunnamed⟩ := scan_in_place unnamed 5
  exact ⟨hslices.trans (congrArg some hfound), (htokens _ _ _ hfound).2.2.2,
    hsigns.trans (congrArg some hinvalid), (hunnamed _ _ hinvalid).2.2⟩

end NameLint.Guard
