/-
How far the scanner looks.

What the scanner makes of a line depends on the lines up to it and on no others, so a header
has one list of line scans (`headerScans`), and every run of the scanner reads a part of it:
the first line within the limit that says anything decides (`scan_eq_findSome?`).  Cutting
the header off, raising the limit and changing what comes later are then three ways to
change a list behind the place where the search has stopped.
-/
import NameLint.Proofs.Guard.Opening

namespace NameLint.Guard

/-! ### Line by line -/

/-- What each of some lines holds; `number` is that of the first of them. -/
def lineScans (inBlock : Bool) (number : Nat) : List (List Char) → List (Option Scan)
  | [] => []
  | line :: rest =>
    lineScan? number line (blanked inBlock line).1
      :: lineScans (blanked inBlock line).2 (number + 1) rest

/-- What each line of a header holds. -/
def headerScans (lines : List String) : List (Option Scan) :=
  lineScans false 1 (unmarked lines)

theorem lineScans_take : ∀ (lines : List (List Char)) (inBlock : Bool) (number n : Nat),
    lineScans inBlock number (lines.take n) = (lineScans inBlock number lines).take n := by
  intro lines
  induction lines with
  | nil => intro inBlock number n; simp [lineScans]
  | cons line rest ih =>
      intro inBlock number n
      cases n with
      | zero => rfl
      | succ n => simp [lineScans, ih]

theorem unmarked_take (lines : List String) (n : Nat) :
    unmarked (lines.take n) = (unmarked lines).take n := by
  cases lines with
  | nil => simp [unmarked]
  | cons raw rest =>
      cases n with
      | zero => rfl
      | succ n => simp [unmarked]

/-- What a line holds does not depend on the lines behind it. -/
theorem headerScans_take (lines : List String) (n : Nat) :
    headerScans (lines.take n) = (headerScans lines).take n := by
  rw [headerScans, unmarked_take, lineScans_take]
  rfl

theorem scanFrom_eq_findSome? : ∀ (lines : List (List Char)) (inBlock : Bool) (number : Nat),
    1 < number →
      scanFrom inBlock number lines
        = ((lineScans inBlock number lines).findSome? id).getD .missing := by
  intro lines
  induction lines with
  | nil => intro inBlock number _; rfl
  | cons line rest ih =>
      intro inBlock number hnumber
      rw [scanFrom_cons, if_neg (by omega), ih _ (number + 1) (by omega), lineScans,
        List.findSome?_cons]
      cases hscan : lineScan? number line (blanked inBlock line).1 <;> simp

/-- **The scanner finds what the first line within the limit says that says anything.** -/
theorem scan_eq_findSome? (lines : List String) (limit : Nat) :
    scan lines limit = (((headerScans lines).take limit).findSome? id).getD .missing := by
  cases lines with
  | nil => simp [scan, scanFrom, headerScans, unmarked, lineScans]
  | cons raw rest =>
      cases limit with
      | zero => rfl
      | succ room =>
          have hfirst : unmarked (raw :: rest) = withoutMark raw.toList :: rest.map String.toList :=
            rfl
          rw [scan_of_unmarked hfirst, scanFrom_eq_findSome? _ _ 2 (by omega), headerScans, hfirst,
            lineScans, List.take_succ_cons, List.findSome?_cons, lineScans_take]
          cases hscan : lineScan? 1 (withoutMark raw.toList)
            (blanked false (withoutMark raw.toList)).1 <;> simp

/-! ### Directives -/

/-- That a line of a header has a directive outside of comments; `i` lines come before it. -/
def DirectiveAt (lines : List String) (i : Nat) : Prop :=
  ∃ code, (blankedLines false (unmarked lines))[i]? = some code ∧ (directive? code).isSome = true

/-- A lexer of the whole text finds the directives on the same lines. -/
theorem directiveAt_iff_lexed {lines : List String} (hne : lines ≠ [])
    (hlines : ∀ line ∈ lines, '\n' ∉ line.toList) (i : Nat) :
    DirectiveAt lines i ↔
      ∃ code, ((lexed .code (withoutMark (['\n'].intercalate (lines.map String.toList)))).splitOn
        '\n')[i]? = some code ∧ (directive? code).isSome = true := by
  obtain ⟨raw, rest, rfl⟩ := List.exists_cons_of_ne_nil hne
  have hunmarked : ∀ line ∈ unmarked (raw :: rest), '\n' ∉ line := by
    intro line hline
    rcases List.mem_cons.mp hline with rfl | hmem
    · exact newline_not_mem_withoutMark (hlines raw (by simp))
    · obtain ⟨l, hl, rfl⟩ := List.mem_map.mp hmem
      exact hlines l (by simp [hl])
  have hsplit : (lexed .code (['\n'].intercalate
      (withoutMark raw.toList :: rest.map String.toList))).splitOn '\n'
        = blankedLines false (unmarked (raw :: rest)) :=
    splitOn_lexed (List.cons_ne_nil _ _) hunmarked
  rw [List.map_cons, withoutMark_intercalate, hsplit]
  rfl

@[simp]
theorem isSome_lineScan? (number : Nat) (line code : List Char) :
    (lineScan? number line code).isSome = (directive? code).isSome := by
  have hverdict := congrArg Option.isSome (lineScan?_verdict number line code)
  simpa using hverdict

theorem map_isSome_lineScans : ∀ (lines : List (List Char)) (inBlock : Bool) (number : Nat),
    (lineScans inBlock number lines).map Option.isSome
      = (blankedLines inBlock lines).map fun code => (directive? code).isSome := by
  intro lines
  induction lines with
  | nil => intro inBlock number; rfl
  | cons line rest ih => intro inBlock number; simp [lineScans, blankedLines, ih]

/-- The lines with directives are the lines that say something. -/
theorem directiveAt_iff {lines : List String} {i : Nat} :
    DirectiveAt lines i ↔ ∃ s, (headerScans lines)[i]? = some (some s) := by
  have hsame := congrArg (·[i]?) (map_isSome_lineScans (unmarked lines) false 1)
  simp only [List.getElem?_map] at hsame
  unfold DirectiveAt headerScans
  constructor
  · rintro ⟨code, hcode, hdirective⟩
    rw [hcode, Option.map_some, hdirective, Option.map_eq_some_iff] at hsame
    obtain ⟨said, hsaid, hsome⟩ := hsame
    obtain ⟨s, rfl⟩ := Option.isSome_iff_exists.mp hsome
    exact ⟨s, hsaid⟩
  · rintro ⟨s, hs⟩
    rw [hs, Option.map_some, Option.isSome_some, eq_comm, Option.map_eq_some_iff] at hsame
    exact hsame

/-! ### The window -/

/-- Behind a line that says something there is nothing to be found. -/
theorem findSome?_take_of_getElem? {α : Type} {said : List (Option α)} {i n : Nat} {a : α}
    (hsaid : said[i]? = some (some a)) (hi : i < n) :
    (said.take n).findSome? id = (said.take (i + 1)).findSome? id := by
  have hmem : some a ∈ said.take (i + 1) := by
    refine List.mem_of_getElem? (i := i) ?_
    rw [List.getElem?_take_of_lt (Nat.lt_succ_self i), hsaid]
  cases hfirst : (said.take (i + 1)).findSome? id with
  | none => exact absurd (List.findSome?_eq_none_iff.mp hfirst _ hmem) (by simp)
  | some b =>
      have hstart : said.take (i + 1) <+: said.take n := List.take_prefix_take_left (by omega)
      exact hstart.findSome?_eq_some hfirst

/-- The lines behind a directive have no say. -/
theorem scan_of_directiveAt {lines : List String} {i limit : Nat} (hline : DirectiveAt lines i)
    (hi : i < limit) : scan lines limit = scan lines (i + 1) := by
  obtain ⟨s, hs⟩ := directiveAt_iff.mp hline
  rw [scan_eq_findSome?, scan_eq_findSome?, findSome?_take_of_getElem? hs hi]

theorem DirectiveAt.congr {lines others : List String} {i : Nat} (hline : DirectiveAt lines i)
    (hsame : others.take (i + 1) = lines.take (i + 1)) : DirectiveAt others i := by
  obtain ⟨s, hs⟩ := directiveAt_iff.mp hline
  refine directiveAt_iff.mpr ⟨s, ?_⟩
  have htake : ∀ ls : List String, (headerScans ls)[i]? = (headerScans (ls.take (i + 1)))[i]? := by
    intro ls
    rw [headerScans_take, List.getElem?_take_of_lt (Nat.lt_succ_self i)]
  rw [htake, hsame, ← htake, hs]

theorem scan_of_not_missing {lines : List String} {n m : Nat} (h : n ≤ m)
    (hfound : scan lines n ≠ .missing) : scan lines m = scan lines n := by
  rw [scan_eq_findSome?] at hfound
  rw [scan_eq_findSome?, scan_eq_findSome?]
  cases hfirst : ((headerScans lines).take n).findSome? id with
  | none => exact absurd (by rw [hfirst]; rfl) hfound
  | some s =>
      have hstart : (headerScans lines).take n <+: (headerScans lines).take m :=
        List.take_prefix_take_left h
      rw [hstart.findSome?_eq_some hfirst]

/--
**The limit is exact, and a verdict once given stays.**  A scan with a limit is the scan of
the header cut off there.  With a larger limit nothing changes if something was found, nor
if there was a directive within the smaller one, and in that case the lines behind the
directive may be any.  So a larger limit makes a difference only where no directive at all
lies within the smaller one.
-/
theorem scan_window (lines : List String) {n m : Nat} (h : n ≤ m) :
    scan lines n = scan (lines.take n) m ∧
      (scan lines n ≠ .missing → scan lines m = scan lines n) ∧
      (∀ i < n, DirectiveAt lines i → scan lines m = scan lines n ∧
        ∀ others limit, others.take (i + 1) = lines.take (i + 1) → i < limit →
          scan others limit = scan lines n) ∧
      (scan lines m ≠ scan lines n →
        scan lines n = .missing ∧ ∀ i < n, ¬ DirectiveAt lines i) := by
  have hbehind : ∀ i < n, DirectiveAt lines i → ∀ others limit,
      others.take (i + 1) = lines.take (i + 1) → i < limit →
        scan others limit = scan lines n := by
    intro i hi hline others limit hsame hlimit
    rw [scan_of_directiveAt (hline.congr hsame) hlimit, scan_of_directiveAt hline hi, scan, scan,
      hsame]
  refine ⟨?_, scan_of_not_missing h, ?_, ?_⟩
  · rw [scan, scan, List.take_take, Nat.min_eq_right h]
  · intro i hi hline
    exact ⟨hbehind i hi hline lines m rfl (by omega), hbehind i hi hline⟩
  · intro hchanged
    refine ⟨?_, fun i hi hline => hchanged (hbehind i hi hline lines m rfl (by omega))⟩
    by_contra hfound
    exact hchanged (scan_of_not_missing h hfound)

/-- A comment runs over the edge of the smaller window, and a guard stands behind it. -/
theorem scan_window_of_comment_over_edge :
    let lines := ["/* a", "#if 0 */ int x;", "#ifndef A_H", "#define A_H"]
    scan lines 9 = .found "A_H".toList 3 9 ∧ (∀ i < 1, ¬ DirectiveAt lines i) ∧
      DirectiveAt lines 2 ∧ ∀ others limit, others.take 3 = lines.take 3 → 2 < limit →
        scan others limit = .found "A_H".toList 3 9 := by
  intro lines
  have htoken : IsToken "A_H".toList :=
    ⟨by decide +kernel, by decide +kernel, by decide +kernel⟩
  have hquiet : Quiet ["/* a".toList, "#if 0 */ int x;".toList] :=
    ⟨by decide +kernel, by decide +kernel⟩
  have hlines : unmarked lines = ["/* a".toList, "#if 0 */ int x;".toList]
      ++ opening "A_H".toList :: ["#define A_H".toList] := by decide +kernel
  have hfound : scan lines 3 = .found "A_H".toList 3 9 :=
    scan_opening hlines hquiet (by decide) htoken
  have hshort : scan lines 1 = .missing := by decide +kernel
  have hdirective : DirectiveAt lines 2 :=
    ⟨"#ifndef A_H".toList, by decide +kernel, by decide +kernel⟩
  obtain ⟨hsame, hothers⟩ :=
    (scan_window lines (show 3 ≤ 9 by decide)).2.2.1 2 (by decide) hdirective
  have hlong : scan lines 9 = .found "A_H".toList 3 9 := hsame.trans hfound
  have hchanged : scan lines 9 ≠ scan lines 1 := by simp [hlong, hshort]
  refine ⟨hlong, ((scan_window lines (show 1 ≤ 9 by decide)).2.2.2 hchanged).2, hdirective, ?_⟩
  intro others limit htake hlimit
  exact (hothers others limit htake hlimit).trans hfound

end NameLint.Guard
