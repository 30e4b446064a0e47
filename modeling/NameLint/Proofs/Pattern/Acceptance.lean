/-
Which patterns are accepted.

A pattern that is a regex by itself is accepted, unless it ends inside of a comment: the
closing parenthesis is put on the line of the comment then, and the group stays open.
A pattern that is accepted is a regex by itself, unless it has a parenthesis that closes
nothing: that one closes the group too early, and what the anchor is in front of is only
the pattern up to there.  `accepted_iff` says that there are no other cases.

The anchor and the group take up some of the room that a pattern has, and so the limits
on the size of a regex, whichever it is, and on the depth of its nesting are met a little
earlier.
-/
import NameLint.Proofs.Pattern.Anchoring
import NameLint.Proofs.Regex.Unenclosed

namespace NameLint.NamePattern

open Regex

variable {limit : Limit} {text : List Char} {e : Expr}

/-! ### Limits -/

@[simp]
theorem depth_anchored (e : Expr) : (anchored e).depth = e.depth + 2 := by
  simp [anchored, Expr.depth, Expr.depths]

theorem resolve_anchored_of_ok {r : Regex} {f : Flags} (h : e.resolve {} = .ok (r, f)) :
    (anchored e).resolve {} = .ok (.seq (.look .textStart) (.seq r .empty), {}) := by
  have hgroup : (Expr.group [] e).resolve {} = .ok (r, {}) := bind_eq_ok.mpr ⟨(r, f), h, rfl⟩
  have hrest : resolveSequence {} [.group [] e] = .ok (.seq r .empty, {}) :=
    bind_eq_ok.mpr ⟨(r, {}), hgroup, rfl⟩
  exact bind_eq_ok.mpr ⟨(.look .textStart, {}), rfl, bind_eq_ok.mpr ⟨_, hrest, rfl⟩⟩

/-- That a pattern leaves room for the anchor and the group in what a regex may hold. -/
def LeavesRoom (limit : Limit) (text : List Char) : Prop :=
  (∀ e, Expr.parse text = .ok e → (anchored e).depth ≤ nestLimit) ∧
    ∀ r, Regex.compileWithin limit text = .ok r →
      limit.fits (.seq (.look .textStart) (.seq r .empty)) = true

/-! ### Comments -/

/-- That a pattern ends inside of a comment, which a parenthesis after it is a part of. -/
def EndsInComment (text : List Char) : Prop :=
  ∃ e, Expr.parse text = .ok e ∧ Expr.parse (text ++ [')']) = .ok e

/-- What the inside of a group leaves is the parenthesis, unless a comment takes it. -/
theorem body_before_paren (hform : Expr.parse text = .ok e) :
    ∃ t, body (text.length + 4) { verbose := false } ⟨text ++ [')'], []⟩ = .ok (e, t) ∧
      (t.rest = [')'] ∧ ¬ EndsInComment text ∨ t.rest = [] ∧ EndsInComment text) := by
  obtain ⟨u, hbody, hend⟩ := body_of_parse hform
  have htrails : Trails ⟨text, []⟩ ⟨text ++ [')'], []⟩ := ⟨rfl, .of_append text⟩
  obtain ⟨t, ht, hut⟩ := follows_body htrails (Nat.le_succ _) { verbose := false } e u hbody
  have hlen : (text ++ [')']).length = text.length + 1 := List.length_append
  have hparse := parse_of_body (hlen ▸ ht)
  rw [if_pos (depth_of_parse hform)] at hparse
  refine ⟨t, body_more_fuel (by omega) ht, ?_⟩
  have hleft := hut.rest
  rw [hend] at hleft
  rcases Extends.nil_iff.mp hleft with hrest | hrest
  · refine Or.inl ⟨hrest, ?_⟩
    rintro ⟨e', -, he'⟩
    rw [hparse, hrest] at he'
    cases he'
  · refine Or.inr ⟨hrest, e, hform, ?_⟩
    rw [hparse, if_pos hrest]

/-! ### What is accepted -/

theorem body_wrapped (text : List Char) :
    body ((opening ++ text ++ [')']).length + 1) { verbose := false } ⟨opening ++ text ++ [')'], []⟩
      = (do
          let inner ← body (text.length + 4) { verbose := false }
          if ← atEnd then refuse .groupUnclosed
          skip
          body (text.length + 4)
            { verbose := false, parts := [.group [] inner, .assertion .lineStart] } : Read Expr)
        ⟨text ++ [')'], []⟩ := by
  have hfuel : (opening ++ text ++ [')']).length + 1 = (text.length + 4) + 2 := by
    simp [opening]
  rw [hfuel, List.append_assoc, body_opening]

theorem parse_wrapped_of_parse (hform : Expr.parse text = .ok e) (hopen : ¬ EndsInComment text)
    (hroom : (anchored e).depth ≤ nestLimit) :
    Expr.parse (opening ++ text ++ [')']) = .ok (anchored e) := by
  obtain ⟨t, hbody, ⟨hrest, -⟩ | ⟨-, hends⟩⟩ := body_before_paren hform
  · obtain ⟨left, names⟩ := t
    obtain rfl : left = [')'] := hrest
    have hwhole := (body_wrapped text).trans (run_bind_of_ok hbody _)
    have hok : body ((opening ++ text ++ [')']).length + 1) { verbose := false }
        ⟨opening ++ text ++ [')'], []⟩ = .ok (anchored e, ⟨[], names⟩) := hwhole
    rw [parse_of_body hok, if_pos rfl, if_pos hroom]
  · exact absurd hends hopen

/-- A pattern whose group is closed at its end and nowhere before is a pattern by itself. -/
theorem parse_of_parse_wrapped {e' : Expr} (hclosed : Expr.parse text ≠ .error .groupUnopened)
    (h : Expr.parse (opening ++ text ++ [')']) = .ok e') :
    ∃ e, Expr.parse text = .ok e ∧ ¬ EndsInComment text := by
  obtain ⟨u, hbody, -⟩ := body_of_parse h
  rw [body_wrapped] at hbody
  obtain ⟨inner, t', hinner, hrest⟩ := run_bind_eq_ok.mp hbody
  have hbeside : Beside 0 (some ⟨text, []⟩) ⟨text ++ [')'], []⟩ := ⟨rfl, rfl⟩
  have hfuel : ∀ v ∈ some (⟨text, []⟩ : Source), v.rest.length + 1 ≤ text.length + 1 := by
    rintro v ⟨⟩
    exact Nat.le_refl _
  obtain ⟨-, t, ht, hread⟩ :=
    precedes_body hbeside (Nat.le_refl _) hfuel { verbose := false } inner t' hinner
  cases t with
  | none =>
      -- Nothing is left to close the group with.
      obtain ⟨left, names⟩ := t'
      obtain rfl : left = [] := List.length_eq_zero_iff.mp (Nat.le_zero.mp ht)
      cases hrest
  | some v =>
      obtain ⟨w, hw, hv⟩ := hread v rfl
      cases hw
      have hnil : v.rest = [] := by
        by_contra hmore
        exact hclosed ((parse_of_body hv).trans (if_neg hmore))
      have hleft : t'.rest = [')'] := by rw [ht.2, hnil]; rfl
      have hdepth : (anchored inner).depth ≤ nestLimit := by
        obtain ⟨left, names⟩ := t'
        obtain rfl : left = [')'] := hleft
        cases hrest
        exact depth_of_parse h
      have hform : Expr.parse text = .ok inner := by
        rw [depth_anchored] at hdepth
        rw [parse_of_body hv, if_pos hnil, if_pos (by omega)]
      refine ⟨inner, hform, fun hends => ?_⟩
      obtain ⟨t, hbody', ⟨-, hopen⟩ | ⟨hend, -⟩⟩ := body_before_paren hform
      · exact hopen hends
      · rw [hinner] at hbody'
        cases hbody'
        rw [hleft] at hend
        cases hend

/--
**A pattern is accepted if it is a regex that does not end in a comment, and only then.**
Patterns with a parenthesis that closes nothing are left out.
-/
theorem accepted_iff {limit : Limit} {raw : String}
    (hclosed : Expr.parse (respelled raw.toList) ≠ .error .groupUnopened)
    (hroom : LeavesRoom limit (respelled raw.toList)) :
    (∃ p, compileWithin limit raw = .ok p) ↔
      (∃ r, Regex.compileWithin limit (respelled raw.toList) = .ok r) ∧
        ¬ EndsInComment (respelled raw.toList) := by
  constructor
  · rintro ⟨p, hp⟩
    obtain ⟨r', hcompile, -⟩ := bind_eq_ok.mp hp
    obtain ⟨e', f', hparse, hresolve, hfits⟩ := compileWithin_eq_ok.mp hcompile
    obtain ⟨e, hform, hopen⟩ := parse_of_parse_wrapped hclosed hparse
    obtain rfl := parse_wrapped hform hparse
    obtain ⟨r, f, hr, rfl⟩ := resolve_anchored hresolve
    have hfits : limit.fits r = true := (limit.fits_parts (limit.fits_parts hfits).2).1
    exact ⟨⟨r, compileWithin_eq_ok.mpr ⟨e, f, hform, hr, hfits⟩⟩, hopen⟩
  · rintro ⟨⟨r, hr⟩, hopen⟩
    obtain ⟨e, f, hform, hresolve, -⟩ := compileWithin_eq_ok.mp hr
    have hparse := parse_wrapped_of_parse hform hopen (hroom.1 e hform)
    have hcompile : Regex.compileWithin limit (wrapped raw.toList) = _ := compileWithin_eq_ok.mpr
      ⟨_, _, hparse, resolve_anchored_of_ok hresolve, hroom.2 r hr⟩
    exact ⟨_, bind_eq_ok.mpr ⟨_, hcompile, rfl⟩⟩

/-- A choice in a verbose pattern, with a comment that ends before the pattern does. -/
theorem accepted_iff_of_commented_choice :
    Expr.parse (respelled "(?x)a # b\n|\\Z".toList) ≠ .error .groupUnopened ∧
      LeavesRoom .estimated (respelled "(?x)a # b\n|\\Z".toList) ∧
      ((∃ p, compile "(?x)a # b\n|\\Z" = .ok p) ↔
        (∃ r, Regex.compile (respelled "(?x)a # b\n|\\Z".toList) = .ok r) ∧
          ¬ EndsInComment (respelled "(?x)a # b\n|\\Z".toList)) := by
  have hparse : Expr.parse (respelled "(?x)a # b\n|\\Z".toList) = .ok (.choice
      [.sequence [.flags [(.verbose, true)], .literal ⟨'a', false⟩], .assertion .textEnd]) := rfl
  have hcompile : Regex.compile (respelled "(?x)a # b\n|\\Z".toList) = .ok _ := rfl
  have hclosed : Expr.parse (respelled "(?x)a # b\n|\\Z".toList) ≠ .error .groupUnopened := by
    rw [hparse]
    exact nofun
  have hroom : LeavesRoom .estimated (respelled "(?x)a # b\n|\\Z".toList) := by
    refine ⟨fun e he => ?_, fun r hr => ?_⟩
    · rw [hparse] at he
      cases he
      decide
    · cases hcompile.symm.trans hr
      decide
  exact ⟨hclosed, hroom, accepted_iff hclosed hroom⟩

/--
A pattern that is no regex may be accepted: the group is closed before the choice, and the
second branch is not anchored.  A regex may be refused: the parenthesis after it belongs to
its comment.
-/
theorem accepted_of_unopened_group_and_refused_of_comment :
    (∃ p, compile "a)|(b" = .ok p ∧ p.accepts "xb" = true ∧
      Regex.compile (respelled "a)|(b".toList) = .error .groupUnopened) ∧
    (∃ r, Regex.compile (respelled "(?x)a # note".toList) = .ok r) ∧
      compile "(?x)a # note" = .error .groupUnclosed := by
  have hok : compile "a)|(b" = .ok _ := rfl
  exact ⟨⟨_, hok, by decide +kernel, rfl⟩, ⟨_, rfl⟩, rfl⟩

end NameLint.NamePattern
