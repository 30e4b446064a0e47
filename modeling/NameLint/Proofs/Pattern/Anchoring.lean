/-
A naming pattern matches from the start of a name, and nowhere else.

The anchor is put in front of a pattern as text, and so are the parentheses around it.
What has to be shown is that the text so put together is the anchor followed by the
pattern as a group, for every pattern that can be read by itself: a choice at its top does
not come apart, a flag set in it does not reach the anchor, and the closing parenthesis
closes the group that the opening one opened.  `parse_wrapped` is this fact.  The rest
follows the anchored pattern through resolving and through the check of its size, and
`accepts_iff` reads off what it matches.
-/
import NameLint.Pattern
import NameLint.Proofs.Regex.Enclosed
import NameLint.Proofs.Regex.Matches

namespace NameLint.NamePattern

open Regex

/-! ### The written form -/

/-- The pattern with the anchor in front of it, as the text with both reads. -/
def anchored (e : Expr) : Expr :=
  .sequence [.assertion .lineStart, .group [] e]

/-- After the opening, the text is read as the inside of a group. -/
theorem body_opening (fuel : Nat) (text : List Char) :
    body (fuel + 2) { verbose := false } ⟨opening ++ text, []⟩ = (do
      let inner ← body fuel { verbose := false }
      if ← atEnd then refuse .groupUnclosed
      skip
      body fuel { verbose := false, parts := [.group [] inner, .assertion .lineStart] } :
        Read Expr) ⟨text, []⟩ :=
  rfl

/-- **The text with the anchor reads as the anchor and the pattern after it.** -/
theorem parse_wrapped {text : List Char} {e e' : Expr} (hform : Expr.parse text = .ok e)
    (hok : Expr.parse (opening ++ text ++ [')']) = .ok e') : e' = anchored e := by
  obtain ⟨t, hbody, hend⟩ := body_of_parse hform
  obtain ⟨u, hbody', -⟩ := body_of_parse hok
  have hfuel : (opening ++ text ++ [')']).length + 1 = (text.length + 4) + 2 := by
    simp [opening]
  rw [hfuel, List.append_assoc, body_opening] at hbody'
  obtain ⟨inner, t', hinner, hrest⟩ := run_bind_eq_ok.mp hbody'
  have htrails : Trails ⟨text, []⟩ ⟨text ++ [')'], []⟩ := ⟨rfl, .of_append text⟩
  have hle : text.length + 1 ≤ text.length + 4 := by omega
  obtain ⟨v, hv, hvt⟩ := follows_body htrails hle { verbose := false } e t hbody
  rw [hv] at hinner
  cases hinner
  obtain ⟨left, names⟩ := t'
  have hleft := hvt.rest
  rw [hend] at hleft
  rcases Extends.nil_iff.mp hleft with rfl | rfl
  · cases hrest
    rfl
  · -- A comment ran over the parenthesis, so the group is not closed.
    cases hrest

/-! ### What it matches -/

theorem resolve_anchored {e : Expr} {r' : Regex} {f' : Flags}
    (h : (anchored e).resolve {} = .ok (r', f')) :
    ∃ r f, e.resolve {} = .ok (r, f) ∧ r' = .seq (.look .textStart) (.seq r .empty) := by
  simp only [anchored, Expr.resolve, resolveSequence] at h
  obtain ⟨p, hp, h⟩ := bind_eq_ok.mp h
  cases hp
  obtain ⟨q, hq, h⟩ := bind_eq_ok.mp h
  obtain ⟨q', hq', hq⟩ := bind_eq_ok.mp hq
  obtain ⟨⟨r, f⟩, hr, hq'⟩ := bind_eq_ok.mp hq'
  cases hq'
  cases hq
  cases h
  exact ⟨r, f, hr, rfl⟩

theorem compileWithin_eq_ok {limit : Limit} {text : List Char} {r : Regex} :
    Regex.compileWithin limit text = .ok r ↔
      ∃ e f, Expr.parse text = .ok e ∧ e.resolve {} = .ok (r, f) ∧ limit.fits r = true := by
  simp only [Regex.compileWithin, bind_eq_ok]
  constructor
  · rintro ⟨e, he, ⟨r', f⟩, hr, h⟩
    split at h
    · rename_i hsize
      cases h
      exact ⟨e, f, he, hr, hsize⟩
    · cases h
  · rintro ⟨e, f, he, hr, hsize⟩
    exact ⟨e, he, (r, f), hr, if_pos hsize⟩

/-- The condition in front holds at the start of the text only. -/
theorem charBefore_isNone_iff {text : List Char} {i : Nat} (hi : i ≤ text.length) :
    (charBefore text i).isNone = true ↔ i = 0 := by
  rw [charBefore]
  split_ifs with hzero
  · simp [hzero]
  · have hlt : i - 1 < text.length := by omega
    simp [hzero, List.getElem?_eq_getElem hlt]

/-- The anchored pattern matches where a match of the pattern begins at the start. -/
theorem isMatch_anchored (r : Regex) (text : List Char) :
    Regex.isMatch (.seq (.look .textStart) (.seq r .empty)) text = true ↔
      ∃ stop, r.Matches text 0 stop := by
  rw [isMatch_iff]
  constructor
  · rintro ⟨i, j, hi, k, ⟨rfl, hstart⟩, stop, hmatch, -⟩
    obtain rfl := (charBefore_isNone_iff hi).mp hstart
    exact ⟨stop, hmatch⟩
  · rintro ⟨stop, hmatch⟩
    exact ⟨0, stop, Nat.zero_le _, 0, ⟨rfl, rfl⟩, stop, hmatch, rfl⟩

/--
**A pattern accepts the names that it matches from their start.**  A match may end
anywhere in the name.  This is so under every limit on the size of patterns.
-/
theorem accepts_iff {limit : Limit} {raw : String} {e : Expr} {p : NamePattern}
    (hform : Expr.parse (respelled raw.toList) = .ok e) (hok : compileWithin limit raw = .ok p) :
    ∃ r, Regex.compileWithin limit (respelled raw.toList) = .ok r ∧
      ∀ name : String, p.accepts name = true ↔ ∃ stop, r.Matches name.toList 0 stop := by
  obtain ⟨r', hcompile, hp⟩ := bind_eq_ok.mp hok
  cases hp
  obtain ⟨e', f', hparse, hresolve, hfits⟩ := compileWithin_eq_ok.mp hcompile
  obtain rfl := parse_wrapped hform hparse
  obtain ⟨r, f, hr, rfl⟩ := resolve_anchored hresolve
  have hfits : limit.fits r = true := (limit.fits_parts (limit.fits_parts hfits).2).1
  refine ⟨r, compileWithin_eq_ok.mpr ⟨e, f, hform, hr, hfits⟩, fun name => ?_⟩
  exact isMatch_anchored r name.toList

/-- A choice whose first branch sets the flag for lines and has an anchor of its own. -/
theorem accepts_iff_of_multi_line_choice :
    ∃ e p r, Expr.parse (respelled "(?m)^a|b\\Z".toList) = .ok e ∧ compile "(?m)^a|b\\Z" = .ok p ∧
      Regex.compile (respelled "(?m)^a|b\\Z".toList) = .ok r ∧
      ∀ name : String, p.accepts name = true ↔ ∃ stop, r.Matches name.toList 0 stop := by
  have hform : Expr.parse (respelled "(?m)^a|b\\Z".toList) = .ok (.choice
      [.sequence [.flags [(.multiLine, true)], .assertion .lineStart, .literal ⟨'a', false⟩],
        .sequence [.literal ⟨'b', false⟩, .assertion .textEnd]]) := rfl
  have hok : compile "(?m)^a|b\\Z" = .ok _ := rfl
  obtain ⟨r, hr, haccepts⟩ := accepts_iff hform hok
  exact ⟨_, _, r, hform, hok, hr, haccepts⟩

end NameLint.NamePattern
