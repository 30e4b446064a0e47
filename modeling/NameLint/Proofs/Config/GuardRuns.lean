/-
A guard is the letters and digits of its header, run by run.

The derived part of a guard is made in two passes.  One writes an underscore for each
stretch of other characters, the other cuts underscores off the ends.  Together they come to
something simpler: the maximal runs of letters and digits (`runs`), with single underscores
between them (`joined`).

So no two underscores meet and none stands at an end.  The runs of such a text are those it
was joined of (`runs_joined`), and there is nothing left in them that a mapping of case
would change.  That makes a guard its own guard.
-/
import Mathlib.Data.List.Chain
import NameLint.Proofs.Config.GuardToken
import NameLint.Proofs.Unicode.Casing

namespace NameLint.GuardToken

variable {c : Char} {cs text run : List Char} {rs : List (List Char)}

/-! ### Runs -/

/-- The maximal runs of ASCII letters and digits of a text, in order. -/
def runs (text : List Char) : List (List Char) :=
  (text.splitOnP fun c => !c.isAlphanum).filter fun run => !run.isEmpty

/-- Runs with single underscores between them. -/
def joined (rs : List (List Char)) : List Char :=
  ['_'].intercalate rs

/-- That a text is made of letters and digits, of one at least. -/
structure IsRun (run : List Char) : Prop where
  /-- There is something in it. -/
  nonempty : run ≠ []
  /-- All of it is letters and digits. -/
  chars : ∀ c ∈ run, c.isAlphanum = true

@[simp]
theorem runs_cons_of_bar (hc : c.isAlphanum = false) (cs : List Char) :
    runs (c :: cs) = runs cs := by
  simp [runs, List.splitOnP_cons_eq_if_modifyHead, hc]

/-- A letter or a digit goes in front of the run that follows, if one follows right behind it. -/
theorem runs_cons_of_isAlphanum (hc : c.isAlphanum = true) (cs : List Char) :
    (∃ d ds, cs = d :: ds ∧ d.isAlphanum = true ∧
      ∃ run rest, runs cs = run :: rest ∧ runs (c :: cs) = (c :: run) :: rest) ∨
    ((∀ d ∈ cs.head?, d.isAlphanum = false) ∧ runs (c :: cs) = [c] :: runs cs) := by
  cases cs with
  | nil =>
      right
      simp [runs, List.splitOnP_cons_eq_if_modifyHead, hc]
  | cons d ds =>
      obtain ⟨piece, pieces, hsplit⟩ :=
        List.exists_cons_of_ne_nil (List.splitOnP_ne_nil (fun c => !c.isAlphanum) ds)
      by_cases hd : d.isAlphanum = true
      · left
        refine ⟨d, ds, rfl, hd, d :: piece, pieces.filter fun run => !run.isEmpty, ?_⟩
        simp [runs, List.splitOnP_cons_eq_if_modifyHead, hc, hd, hsplit]
      · right
        simp [runs, List.splitOnP_cons_eq_if_modifyHead, hc, hd]

theorem isRun_of_mem_runs : ∀ {text : List Char}, run ∈ runs text → IsRun run := by
  intro text
  induction text generalizing run with
  | nil => simp [runs]
  | cons c cs ih =>
      intro h
      by_cases hc : c.isAlphanum = true
      · rcases runs_cons_of_isAlphanum hc cs with ⟨-, -, -, -, first, rest, hcs, hruns⟩ | ⟨-, hruns⟩
        · rw [hruns] at h
          rcases List.mem_cons.mp h with rfl | h
          · have hfirst : IsRun first := ih (by simp [hcs])
            refine ⟨List.cons_ne_nil c first, ?_⟩
            intro d hd
            rcases List.mem_cons.mp hd with rfl | hd
            · exact hc
            · exact hfirst.chars d hd
          · exact ih (by simp [hcs, h])
        · rw [hruns] at h
          rcases List.mem_cons.mp h with rfl | h
          · exact ⟨List.cons_ne_nil c [], by simpa using hc⟩
          · exact ih h
      · rw [runs_cons_of_bar (by simpa using hc)] at h
        exact ih h

/-! ### Joined runs -/

@[simp]
theorem joined_cons_cons (first next : List Char) (rest : List (List Char)) :
    joined (first :: next :: rest) = first ++ '_' :: joined (next :: rest) := by
  simp [joined, List.intercalate_cons_cons]

@[simp]
theorem joined_singleton (run : List Char) : joined [run] = run := by
  simp [joined]

theorem joined_cons_head (c : Char) (run : List Char) (rest : List (List Char)) :
    joined ((c :: run) :: rest) = c :: joined (run :: rest) := by
  cases rest with
  | nil => simp
  | cons next rest => simp

/-- **The runs of joined runs are these runs.** -/
theorem runs_joined (h : ∀ run ∈ rs, IsRun run) : runs (joined rs) = rs := by
  induction rs with
  | nil => rfl
  | cons first rest ih =>
      have hfirst : IsRun first := h first (by simp)
      have hrest := ih fun run hrun => h run (by simp [hrun])
      have hkept : ∀ c ∈ first, (!c.isAlphanum) = false := by
        intro c hc
        simp [hfirst.chars c hc]
      cases rest with
      | nil =>
          rw [joined_singleton, runs, List.splitOnP_eq_singleton hkept]
          simp [hfirst.nonempty]
      | cons next rest =>
          rw [joined_cons_cons, runs,
            List.splitOnP_append_cons_of_forall_mem hkept '_' (by decide),
            List.filter_cons_of_pos (by simp [hfirst.nonempty])]
          exact congrArg (first :: ·) hrest

/-- That no two underscores of a text meet and that none stands at an end. -/
structure IsSpare (text : List Char) : Prop where
  /-- It does not begin with an underscore. -/
  first : text.head? ≠ some '_'
  /-- It does not end in one. -/
  last : text.getLast? ≠ some '_'
  /-- No underscore follows another one. -/
  next : text.IsChain fun c d => ¬ (c = '_' ∧ d = '_')

theorem IsRun.isSpare (h : IsRun run) : IsSpare run := by
  have hbar : ∀ c ∈ run, c ≠ '_' := by
    rintro c hc rfl
    exact absurd (h.chars '_' hc) (by decide)
  refine ⟨?_, ?_, ?_⟩
  · intro hfirst
    exact hbar '_' (List.mem_of_head? hfirst) rfl
  · intro hlast
    exact hbar '_' (List.mem_of_getLast? hlast) rfl
  · refine List.isChain_iff_forall_rel_of_append_cons_cons.mpr ?_
    rintro c d front back rfl ⟨hc, -⟩
    exact hbar c (by simp) hc

theorem IsSpare.append (hrun : IsRun run) (htext : IsSpare text) (hne : text ≠ []) :
    IsSpare (run ++ '_' :: text) := by
  have hspare := hrun.isSpare
  refine ⟨?_, ?_, ?_⟩
  · rw [List.head?_append_of_ne_nil run hrun.nonempty]
    exact hspare.first
  · rw [List.getLast?_append_of_ne_nil run (List.cons_ne_nil '_' text),
      List.getLast?_cons_of_ne_nil hne]
    exact htext.last
  · refine List.isChain_append.mpr ⟨hspare.next, List.isChain_cons.mpr ⟨?_, htext.next⟩, ?_⟩
    · rintro d hd ⟨-, rfl⟩
      exact htext.first hd
    · rintro d hd - - ⟨rfl, -⟩
      exact hspare.last hd

theorem joined_cons_ne_nil (hrun : IsRun run) (rest : List (List Char)) :
    joined (run :: rest) ≠ [] := by
  cases rest with
  | nil =>
      rw [joined_singleton]
      exact hrun.nonempty
  | cons next rest => simp

theorem isSpare_joined (h : ∀ run ∈ rs, IsRun run) : IsSpare (joined rs) := by
  induction rs with
  | nil => exact ⟨by simp [joined], by simp [joined], by simp [joined]⟩
  | cons first rest ih =>
      have hrest := ih fun run hrun => h run (by simp [hrun])
      cases rest with
      | nil =>
          rw [joined_singleton]
          exact (h first (by simp)).isSpare
      | cons next rest =>
          rw [joined_cons_cons]
          exact hrest.append (h first (by simp)) (joined_cons_ne_nil (h next (by simp)) rest)

/-! ### The two passes -/

/-- Behind an underscore, the first pass gives the joined runs, and one for what comes after. -/
theorem barred_true_eq (text : List Char) :
    ∃ n, barred true text = joined (runs text) ++ List.replicate n '_' := by
  induction text with
  | nil => exact ⟨0, rfl⟩
  | cons c cs ih =>
      obtain ⟨n, hn⟩ := ih
      by_cases hc : c.isAlphanum = true
      · rw [barred, if_pos hc]
        rcases runs_cons_of_isAlphanum hc cs with
          ⟨d, ds, rfl, hd, first, rest, hcs, hruns⟩ | ⟨hnext, hruns⟩
        · refine ⟨n, ?_⟩
          have hsame : barred false (d :: ds) = barred true (d :: ds) := by
            simp [barred, hd]
          rw [hruns, joined_cons_head, hsame, hn, hcs]
          rfl
        · rw [hruns]
          cases cs with
          | nil => exact ⟨0, rfl⟩
          | cons d ds =>
              have hd : d.isAlphanum = false := hnext d rfl
              have hbar : barred false (d :: ds) = '_' :: barred true (d :: ds) := by
                simp [barred, hd]
              rw [hbar, hn]
              -- The underscore parts two runs, or it is one more at the end.
              cases hcs : runs (d :: ds) with
              | nil => exact ⟨n + 1, rfl⟩
              | cons first rest => exact ⟨n, by simp⟩
      · refine ⟨n, ?_⟩
        rw [barred, if_neg hc, if_pos rfl, hn, runs_cons_of_bar (by simpa using hc)]

theorem barred_false_eq (text : List Char) :
    ∃ m n, barred false text
      = List.replicate m '_' ++ (joined (runs text) ++ List.replicate n '_') := by
  obtain ⟨n, hn⟩ := barred_true_eq text
  cases text with
  | nil => exact ⟨0, 0, rfl⟩
  | cons c cs =>
      by_cases hc : c.isAlphanum = true
      · refine ⟨0, n, ?_⟩
        rw [← hn]
        simp [barred, hc]
      · refine ⟨1, n, ?_⟩
        rw [← hn]
        simp [barred, hc]

/-- Underscores around a text that has none at its ends are what the second pass cuts off. -/
theorem trimBars_of_isSpare (h : IsSpare text) (m n : Nat) :
    trimBars (List.replicate m '_' ++ (text ++ List.replicate n '_')) = text := by
  have hbars : ∀ (k : Nat) (back : List Char), back.head? ≠ some '_' →
      (List.replicate k '_' ++ back).dropWhile (fun c => c = '_') = back := by
    intro k back hback
    rw [List.dropWhile_append_of_pos (by simp)]
    cases back with
    | nil => rfl
    | cons c cs => exact List.dropWhile_cons_of_neg (by simpa using hback)
  by_cases hne : text = []
  · have hall := hbars (m + n) [] (by simp)
    rw [List.append_nil] at hall
    rw [hne, List.nil_append, ← List.replicate_add, trimBars, hall]
    rfl
  · have hfront : (text ++ List.replicate n '_').head? ≠ some '_' := by
      rw [List.head?_append_of_ne_nil text hne]
      exact h.first
    have hback : text.reverse.head? ≠ some '_' := by
      rw [List.head?_reverse]
      exact h.last
    rw [trimBars, hbars m _ hfront, List.reverse_append, List.reverse_replicate,
      hbars n _ hback, List.reverse_reverse]

/-- **The body of a guard is the runs of letters and digits, with underscores between them.** -/
theorem bodyOf_eq_joined (cased : List Char) : bodyOf cased = joined (runs cased) := by
  obtain ⟨m, n, hbarred⟩ := barred_false_eq cased
  rw [bodyOf, hbarred]
  exact trimBars_of_isSpare (isSpare_joined fun run hrun => isRun_of_mem_runs hrun) m n

@[simp]
theorem bodyOf_bodyOf (cased : List Char) : bodyOf (bodyOf cased) = bodyOf cased := by
  rw [bodyOf_eq_joined (bodyOf cased), bodyOf_eq_joined,
    runs_joined fun run hrun => isRun_of_mem_runs hrun]

/-! ### Deriving from a guard -/

/-- What is kept of a mapped text is not changed by the same mapping. -/
theorem apply_bodyOf (guardCase : GuardCase) (text : List Char) :
    guardCase.apply (bodyOf (guardCase.apply text)) = bodyOf (guardCase.apply text) := by
  have hascii : ∀ c ∈ bodyOf (guardCase.apply text), c.toNat < 128 := by
    intro c hc
    exact toNat_lt_of_isMacroChar (isMacroChar_of_mem_bodyOf hc)
  have hkept : ∀ c ∈ bodyOf (guardCase.apply text), c ∈ guardCase.apply text ∨ c = '_' := by
    intro c hc
    exact (of_mem_barred _ false (mem_of_mem_trimBars hc)).imp_left And.left
  cases guardCase with
  | upper =>
      refine Casing.upper_eq_self hascii fun c hc => ?_
      rcases hkept c hc with hmapped | rfl
      · exact Casing.isLower_of_mem_upper hmapped
      · decide
  | lower =>
      refine Casing.lower_eq_self hascii fun c hc => ?_
      rcases hkept c hc with hmapped | rfl
      · exact Casing.isUpper_of_mem_lower hmapped
      · decide
  | keep => rfl

theorem toList_derive_bare (input : String) (guardCase : GuardCase) :
    (derive input "" "" guardCase).toList = bodyOf (guardCase.apply input.toList) := by
  simp [derive]

/--
**A guard is the letters and digits of what it is named after.**  It consists of the maximal
runs of them in the text in the right case, single underscores between the runs, and the
texts that are put around it.  With nothing around it no two underscores meet, none stands
at an end, and the guard derived from the guard is the guard itself.
-/
theorem derive_eq_joined_runs (input before after : String) (guardCase : GuardCase) :
    derive input before after guardCase
        = before ++ String.ofList (joined (runs (guardCase.apply input.toList))) ++ after ∧
      IsSpare (derive input "" "" guardCase).toList ∧
      derive (derive input "" "" guardCase) "" "" guardCase = derive input "" "" guardCase := by
  refine ⟨?_, ?_, ?_⟩
  · rw [derive, bodyOf_eq_joined]
  · rw [toList_derive_bare, bodyOf_eq_joined]
    exact isSpare_joined fun run hrun => isRun_of_mem_runs hrun
  · rw [← String.toList_inj, toList_derive_bare, toList_derive_bare, apply_bodyOf, bodyOf_bodyOf]

/-- One letter becomes two, and one that has no counterpart in ASCII parts two runs. -/
example : derive "straße/naïve.h" "" "_" .upper = "STRASSE_NA_VE_H_" := by decide +kernel

end NameLint.GuardToken
