import Mathlib.Tactic.SplitIfs
import SchemeCheck.Encoding.Basic

/-!
# SchemeCheck.Proofs.Encoding.Utf8

UTF-8 read back.  Behind the bytes of a character, whatever follows them, the
reader is just where the writer was (`front_encodeChar`); by induction on the
text a capture of written text is the text itself: `capture_encode`.
-/

namespace SchemeCheck.Encoding

/-! ## Scanning -/

section Scan

variable {τ σ : Type} {step : τ → UInt8 → List UInt8 → τ × Front} {char : Char → σ}
  {keep : List UInt8 → List σ}

/-- Bytes that belong to what was read last are passed over. -/
theorem scan_covered (state : τ) (position : Nat) (written : List σ) (covered rest : List UInt8) :
    scan step char keep state position covered.length written (covered ++ rest) =
      scan step char keep state (position + covered.length) 0 written rest := by
  induction covered generalizing position with
  | nil => rfl
  | cons b covered ih =>
      rw [List.length_cons, List.cons_append, scan, ih, Nat.add_assoc, Nat.add_comm 1]

/-- Text at the front is read, and all the bytes that it is written with are used up. -/
theorem scan_text {state next : τ} {b : UInt8} {tail rest : List UInt8} {text : Text}
    (h : step state b (tail ++ rest) = (next, .text text tail.length)) (position : Nat)
    (written : List σ) :
    scan step char keep state position 0 written (b :: tail ++ rest) =
      scan step char keep next (position + (b :: tail).length) 0
        ((text.map char).reverse ++ written) rest := by
  rw [List.cons_append, scan, h]
  dsimp only
  rw [scan_covered, List.length_cons, Nat.add_assoc, Nat.add_comm 1]

end Scan

namespace Utf8

/-! ## One character -/

/-- A continuation byte in the expected range adds its six bits to the value. -/
theorem continued_continuation {low high n : Nat} (hlow : low ≤ 0x80 + n % 64)
    (hhigh : 0x80 + n % 64 ≤ high) (count value seen : Nat) (rest : List UInt8) :
    continued (count + 1) low high value seen (continuation n :: rest) =
      continued count 0x80 0xBF (value * 64 + n % 64) (seen + 1) rest := by
  have hbyte : (continuation n).toNat = 0x80 + n % 64 :=
    UInt8.toNat_ofNat_of_lt' (show 0x80 + n % 64 < 256 by omega)
  rw [continued, hbyte, if_pos ⟨hlow, hhigh⟩]
  congr 1
  omega

section Continued

variable {low high value n : Nat} (rest : List UInt8)

theorem continued_one (hvalue : value = n / 64) :
    continued 1 0x80 0xBF value 0 (continuation n :: rest) = .char (Char.ofNat n) 1 := by
  rw [continued_continuation (by omega) (by omega), continued,
    show value * 64 + n % 64 = n by omega]

theorem continued_two (hvalue : value = n / 4096) (hlow : low ≤ 0x80 + n / 64 % 64)
    (hhigh : 0x80 + n / 64 % 64 ≤ high) :
    continued 2 low high value 0 (continuation (n / 64) :: continuation n :: rest) =
      .char (Char.ofNat n) 2 := by
  rw [continued_continuation hlow hhigh, continued_continuation (by omega) (by omega), continued,
    show (value * 64 + n / 64 % 64) * 64 + n % 64 = n by omega]

theorem continued_three (hvalue : value = n / 262144) (hlow : low ≤ 0x80 + n / 4096 % 64)
    (hhigh : 0x80 + n / 4096 % 64 ≤ high) :
    continued 3 low high value 0
        (continuation (n / 4096) :: continuation (n / 64) :: continuation n :: rest) =
      .char (Char.ofNat n) 3 := by
  rw [continued_continuation hlow hhigh, continued_continuation (by omega) (by omega),
    continued_continuation (by omega) (by omega), continued,
    show ((value * 64 + n / 4096 % 64) * 64 + n / 64 % 64) * 64 + n % 64 = n by omega]

end Continued

/-- **The bytes of a character are read as that character**, and as no more. -/
theorem front_encodeChar (c : Char) (rest : List UInt8) :
    ∃ lead tail, encodeChar c = lead :: tail ∧
      front lead (tail ++ rest) = .char c tail.length := by
  have hvalid : c.toNat < 0xD800 ∨ 0xDFFF < c.toNat ∧ c.toNat < 0x110000 := c.valid
  have hback : Char.ofNat c.toNat = c := Char.ofNat_toNat c
  unfold encodeChar
  generalize c.toNat = n at hvalid hback
  subst hback
  dsimp only
  split_ifs with hone htwo hthree
  · refine ⟨_, _, rfl, ?_⟩
    simp only [front, UInt8.toNat_ofNat_of_lt' (show n < 256 by omega)]
    exact if_pos hone
  · refine ⟨_, _, rfl, ?_⟩
    simp only [front, UInt8.toNat_ofNat_of_lt' (show 0xC0 + n / 64 < 256 by omega)]
    rw [if_neg (by omega), if_neg (by omega), if_pos (by omega)]
    exact continued_one rest (by omega)
  · -- The leads of the first characters and of those around the surrogates hold the next
    -- byte to a narrower range.
    refine ⟨_, _, rfl, ?_⟩
    simp only [front, UInt8.toNat_ofNat_of_lt' (show 0xE0 + n / 4096 < 256 by omega)]
    rw [if_neg (by omega), if_neg (by omega), if_neg (by omega)]
    split_ifs
    all_goals first
      | exact continued_two rest (by omega) (by omega) (by omega)
      | omega
  · refine ⟨_, _, rfl, ?_⟩
    simp only [front, UInt8.toNat_ofNat_of_lt' (show 0xF0 + n / 262144 < 256 by omega)]
    rw [if_neg (by omega), if_neg (by omega), if_neg (by omega), if_neg (by omega),
      if_neg (by omega), if_neg (by omega)]
    split_ifs
    all_goals first
      | exact continued_three rest (by omega) (by omega) (by omega)
      | omega

/-! ## Text -/

/-- The bytes of a text are read as the text, whatever becomes of malformed ones. -/
theorem scan_encode {σ : Type} (char : Char → σ) (keep : List UInt8 → List σ) (text : Text)
    (position : Nat) (written : List σ) :
    scan (stateless front) char keep () position 0 written (encode text) =
      .ok (written.reverse ++ text.map char) := by
  induction text generalizing position written with
  | nil => simp [encode, scan]
  | cons c rest ih =>
      obtain ⟨lead, tail, hchar, hfront⟩ := front_encodeChar c (encode rest)
      have hencode : encode (c :: rest) = lead :: tail ++ encode rest := by
        rw [encode, List.flatMap_cons, hchar, encode]
      rw [hencode, scan_text (by rw [stateless, hfront]), ih]
      simp

end Utf8

/-- **Captured text is the text**: what is written in UTF-8 is captured as it is. -/
theorem capture_encode (text : Text) :
    utf8.capture (Utf8.encode text) = .ok (Capture.ofText text) := by
  simp only [capture, reading, Reading.run, Reading.plain, Utf8.scan_encode]
  rfl

end SchemeCheck.Encoding
