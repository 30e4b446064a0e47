/-
Blanking comments byte by byte.

`blanked` goes through a line character by character.  The same can be done on the bytes of
the line, without knowing where its characters end, since no byte of a comment mark occurs
inside of a longer character (`le_of_mem_utf8EncodeChar`).  What comes out are the bytes of
the line that `blanked` gives (`blankedBytes_encoded`), so they are the bytes of a text.
-/
import NameLint.Proofs.Guard.Lexing

namespace NameLint.Guard

open Text (byteCount)

/-! ### Bytes of a text -/

/-- The bytes of a text. -/
def encoded (cs : List Char) : List UInt8 :=
  cs.flatMap String.utf8EncodeChar

/-- The text that has the bytes; none if they are those of no text. -/
def decoded? (bs : List UInt8) : Option (List Char) :=
  (String.fromUTF8? bs.toByteArray).map String.toList

@[simp]
theorem encoded_append (cs ds : List Char) : encoded (cs ++ ds) = encoded cs ++ encoded ds :=
  List.flatMap_append

@[simp]
theorem length_encoded (cs : List Char) : (encoded cs).length = byteCount cs := by
  induction cs with
  | nil => rfl
  | cons c cs ih =>
      rw [encoded, List.flatMap_cons, List.length_append, String.length_utf8EncodeChar]
      exact congrArg (c.utf8Size + ·) ih

@[simp]
theorem decoded?_encoded (cs : List Char) : decoded? (encoded cs) = some cs := by
  have hvalid : (encoded cs).toByteArray.IsValidUTF8 := (String.ofList cs).isValidUTF8
  have htext : String.fromUTF8 (encoded cs).toByteArray hvalid = String.ofList cs := rfl
  rw [decoded?, String.fromUTF8?, dif_pos hvalid, Option.map_some, htext, String.toList_ofList]

theorem utf8EncodeChar_of_lt {c : Char} (h : c.toNat < 128) :
    String.utf8EncodeChar c = [UInt8.ofNat c.toNat] := by
  have hle : c.val.toNat ≤ 127 := Nat.le_of_lt_succ h
  rw [String.utf8EncodeChar]
  simp only [if_pos hle]
  rfl

/-- The bytes of longer characters are not those of short ones. -/
theorem le_of_mem_utf8EncodeChar {c : Char} (h : 128 ≤ c.toNat) {b : UInt8}
    (hb : b ∈ String.utf8EncodeChar c) : 128 ≤ b.toNat := by
  have hlong : ¬ c.val.toNat ≤ 127 := Nat.not_le_of_lt h
  rw [String.utf8EncodeChar] at hb
  simp only [if_neg hlong] at hb
  split at hb
  · rcases (by simpa using hb) with rfl | rfl <;> simp <;> omega
  · split at hb
    · rcases (by simpa using hb) with rfl | rfl | rfl <;> simp <;> omega
    · rcases (by simpa using hb) with rfl | rfl | rfl | rfl <;> simp <;> omega

/-- A short character is recognised by its byte. -/
theorem encoded_eq_cons {cs : List Char} {a : Char} (ha : a.toNat < 128) {bs : List UInt8}
    (h : encoded cs = UInt8.ofNat a.toNat :: bs) : ∃ ds, cs = a :: ds := by
  cases cs with
  | nil => cases h
  | cons c cs =>
      have hbyte : (UInt8.ofNat a.toNat).toNat = a.toNat := by simp; omega
      rw [encoded, List.flatMap_cons] at h
      by_cases hc : c.toNat < 128
      · rw [utf8EncodeChar_of_lt hc, List.singleton_append] at h
        obtain ⟨hfirst, -⟩ := List.cons.inj h
        have hsame : c.toNat = a.toNat := by
          rw [← hbyte, ← hfirst]
          simp
          omega
        exact ⟨cs, by rw [Char.toNat_inj.mp hsame]⟩
      · obtain ⟨b, rest, hcons⟩ := List.exists_cons_of_length_pos
          (by rw [String.length_utf8EncodeChar]; exact Char.utf8Size_pos c :
            0 < (String.utf8EncodeChar c).length)
        have hb : 128 ≤ b.toNat :=
          le_of_mem_utf8EncodeChar (Nat.le_of_not_lt hc) (by rw [hcons]; exact List.mem_cons_self)
        rw [hcons, List.cons_append] at h
        rw [(List.cons.inj h).1, hbyte] at hb
        omega

/-! ### The loop over bytes -/

/-- Puts bytes in front of a blanked line. -/
def prependBytes (front : List UInt8) (line : List UInt8 × Bool) : List UInt8 × Bool :=
  (front ++ line.1, line.2)

/--
The bytes of a line with comments blanked, and whether a block comment is open after it.
The marks are made of `0x2a`, a star, and `0x2f`, a slash; `0x20` is a space.
-/
def blankedBytes : Bool → List UInt8 → List UInt8 × Bool
  | inBlock, [] => ([], inBlock)
  | true, 0x2a :: 0x2f :: bs => prependBytes [0x20, 0x20] (blankedBytes false bs)
  | true, _ :: bs => prependBytes [0x20] (blankedBytes true bs)
  | false, 0x2f :: 0x2a :: bs => prependBytes [0x20, 0x20] (blankedBytes true bs)
  | false, 0x2f :: 0x2f :: bs => (List.replicate (bs.length + 2) 0x20, false)
  | false, b :: bs => prependBytes [b] (blankedBytes false bs)

theorem blankedBytes_block_cons (b : UInt8) (bs : List UInt8)
    (h : ∀ rest, b = 0x2a → bs ≠ 0x2f :: rest) :
    blankedBytes true (b :: bs) = prependBytes [0x20] (blankedBytes true bs) := by
  rw [blankedBytes]
  exact fun rest hb hbs => h rest hb hbs

theorem blankedBytes_code_cons (b : UInt8) (bs : List UInt8)
    (hblock : ∀ rest, b = 0x2f → bs ≠ 0x2a :: rest)
    (hline : ∀ rest, b = 0x2f → bs ≠ 0x2f :: rest) :
    blankedBytes false (b :: bs) = prependBytes [b] (blankedBytes false bs) := by
  rw [blankedBytes]
  · exact fun rest hb hbs => hblock rest hb hbs
  · exact fun rest hb hbs => hline rest hb hbs

/-- In a comment, bytes with no star among them are covered one by one. -/
theorem blankedBytes_block_append {front : List UInt8} (hfront : 0x2a ∉ front) (bs : List UInt8) :
    blankedBytes true (front ++ bs)
      = prependBytes (List.replicate front.length 0x20) (blankedBytes true bs) := by
  induction front with
  | nil => rfl
  | cons b front ih =>
      have hb : 0x2a ≠ b := List.ne_of_not_mem_cons hfront
      rw [List.cons_append, blankedBytes_block_cons _ _ fun _ h => absurd h.symm hb,
        ih (List.not_mem_of_not_mem_cons hfront)]
      rfl

/-- In code, bytes with no slash among them are kept. -/
theorem blankedBytes_code_append {front : List UInt8} (hfront : 0x2f ∉ front) (bs : List UInt8) :
    blankedBytes false (front ++ bs) = prependBytes front (blankedBytes false bs) := by
  induction front with
  | nil => rfl
  | cons b front ih =>
      have hb : 0x2f ≠ b := List.ne_of_not_mem_cons hfront
      rw [List.cons_append, blankedBytes_code_cons _ _ (fun _ h => absurd h.symm hb)
        fun _ h => absurd h.symm hb, ih (List.not_mem_of_not_mem_cons hfront)]
      rfl

/-! ### Bytes and characters -/

theorem not_mem_utf8EncodeChar {c a : Char} (ha : a.toNat < 128) (hne : c ≠ a) :
    UInt8.ofNat a.toNat ∉ String.utf8EncodeChar c := by
  intro hmem
  by_cases hc : c.toNat < 128
  · rw [utf8EncodeChar_of_lt hc, List.mem_singleton] at hmem
    have hsingle : encoded [c] = UInt8.ofNat a.toNat :: [] := by
      rw [encoded, List.flatMap_singleton, utf8EncodeChar_of_lt hc, hmem]
    obtain ⟨ds, hsame⟩ := encoded_eq_cons ha hsingle
    exact hne (List.cons.inj hsame).1
  · have hb := le_of_mem_utf8EncodeChar (Nat.le_of_not_lt hc) hmem
    simp at hb
    omega

@[simp]
theorem encoded_spacesFor (cs : List Char) :
    encoded (spacesFor cs) = List.replicate (byteCount cs) 0x20 := by
  have hspace : String.utf8EncodeChar ' ' = [0x20] := by decide
  rw [spacesFor]
  induction byteCount cs with
  | zero => rfl
  | succ n ih =>
    rw [List.replicate_succ, encoded, List.flatMap_cons, hspace, List.replicate_succ]
    exact congrArg (0x20 :: ·) ih

@[simp]
theorem encoded_star (cs : List Char) : encoded ('*' :: cs) = 0x2a :: encoded cs := rfl

@[simp]
theorem encoded_slash (cs : List Char) : encoded ('/' :: cs) = 0x2f :: encoded cs := rfl

/-- **Blanked byte by byte, a line is what it is blanked character by character.** -/
theorem blankedBytes_encoded (inBlock : Bool) (line : List Char) :
    blankedBytes inBlock (encoded line)
      = (encoded (blanked inBlock line).1, (blanked inBlock line).2) := by
  -- A byte of a mark behind the bytes of a character is the character of the mark.
  have hstar : ∀ {cs : List Char} {rest : List UInt8}, encoded cs = 0x2a :: rest →
      ∃ ds, cs = '*' :: ds := fun h => encoded_eq_cons (show '*'.toNat < 128 by decide) h
  have hslash : ∀ {cs : List Char} {rest : List UInt8}, encoded cs = 0x2f :: rest →
      ∃ ds, cs = '/' :: ds := fun h => encoded_eq_cons (show '/'.toNat < 128 by decide) h
  fun_induction blanked inBlock line with
  | case1 inBlock => cases inBlock <;> rfl
  | case2 cs ih =>
      rw [encoded_star, encoded_slash, blankedBytes, ih]
      rfl
  | case3 c cs h ih =>
      have hspaces : encoded (spacesFor [c]) = List.replicate c.utf8Size 0x20 :=
        encoded_spacesFor [c]
      rw [prepend, encoded_append, hspaces]
      by_cases hc : c = '*'
      · have hstep := blankedBytes_block_cons 0x2a (encoded cs) fun rest _ hrest =>
          (hslash hrest).elim fun ds hds => h ds hc hds
        rw [hc, encoded_star, hstep, ih]
        rfl
      · have hstep := blankedBytes_block_append
          (not_mem_utf8EncodeChar (show '*'.toNat < 128 by decide) hc) (encoded cs)
        rw [String.length_utf8EncodeChar, ih] at hstep
        exact hstep
  | case4 cs ih =>
      rw [encoded_slash, encoded_star, blankedBytes, ih]
      rfl
  | case5 cs =>
      rw [encoded_slash, encoded_slash, blankedBytes, encoded_spacesFor, length_encoded]
      congr 2
      show byteCount cs + 2 = 1 + (1 + byteCount cs)
      omega
  | case6 c cs hblock hline ih =>
      rw [prepend, encoded_append]
      by_cases hc : c = '/'
      · have hstep := blankedBytes_code_cons 0x2f (encoded cs)
          (fun rest _ hrest => (hstar hrest).elim fun ds hds => hblock ds hc hds)
          fun rest _ hrest => (hslash hrest).elim fun ds hds => hline ds hc hds
        rw [hc, encoded_slash, hstep, ih]
        rfl
      · have hstep := blankedBytes_code_append
          (not_mem_utf8EncodeChar (show '/'.toNat < 128 by decide) hc) (encoded cs)
        have hsingle : encoded [c] = String.utf8EncodeChar c := List.flatMap_singleton ..
        rw [ih] at hstep
        rw [hsingle]
        exact hstep

end NameLint.Guard
