import Mathlib.Data.List.TakeWhile
import Mathlib.Tactic.ByContra
import SchemeCheck.Proofs.Encoding.Utf8

/-!
# SchemeCheck.Proofs.Encoding.Lossless

Reading UTF-8 loses nothing.  What the reader takes for a character is just the
bytes of that character (`encodeChar_of_front`), and of a malformed run it keeps
at least the first byte, as it is (`strayBytes_spec`).  So whatever bytes a
program writes, they are captured, and the capture written back is those bytes
(`exists_capture`).  A capture without stray bytes comes from well-formed UTF-8
only, in the sense of the standard library (`isValidUTF8_iff`).
-/

namespace SchemeCheck

/-- A capture stands for bytes: written back it is these bytes, and only bytes that
could not be ASCII are stray in it. -/
structure Capture.StandsFor (capture : Capture) (bytes : List UInt8) : Prop where
  written : Encoding.Utf8.encodeCapture capture = bytes
  stray : ∀ b, Symbol.byte b ∈ capture → 0x80 ≤ b.toNat

namespace Encoding

/-! ## Scanning -/

/-- Bytes of a malformed run that are kept are passed over, and reading goes on
behind them. -/
theorem scan_malformed {τ σ : Type} {step : τ → UInt8 → List UInt8 → τ × Front} {char : Char → σ}
    {keep : List UInt8 → List σ} {state next : τ} {b : UInt8} {tail rest : List UInt8}
    {more : Nat} {reason : Text}
    (h : step state b (tail ++ rest) = (next, .malformed more reason))
    (hkept : (keep (b :: (tail ++ rest).take more)).length = tail.length + 1) (position : Nat)
    (written : List σ) :
    scan step char keep state position 0 written (b :: tail ++ rest) =
      scan step char keep next (position + (b :: tail).length) 0
        ((keep (b :: (tail ++ rest).take more)).reverse ++ written) rest := by
  have hsome : (keep (b :: (tail ++ rest).take more)).isEmpty = false := by
    rw [List.isEmpty_eq_false_iff, ← List.length_pos_iff, hkept]
    exact Nat.succ_pos _
  rw [List.cons_append, scan, h]
  simp only [hsome, hkept, Nat.add_sub_cancel, Bool.false_eq_true, if_false]
  rw [scan_covered, List.length_cons, Nat.add_assoc, Nat.add_comm 1]

/-- Of a run that could not start with ASCII some bytes are kept, from its front on,
and none of them could be ASCII. -/
theorem strayBytes_spec {lead : UInt8} (h : 0x80 ≤ lead.toNat) (rest : List UInt8) (more : Nat) :
    ∃ kept after, rest = kept ++ after ∧
      strayBytes (lead :: rest.take more) = (lead :: kept).map Symbol.byte ∧
      ∀ b ∈ lead :: kept, 0x80 ≤ b.toNat := by
  let high : UInt8 → Bool := fun b => decide (0x80 ≤ b.toNat)
  let kept := ((rest.take more).take (maxStrayBytes - 1)).takeWhile high
  have hprefix : kept <+: rest :=
    (List.takeWhile_prefix high).trans ((List.take_prefix _ _).trans (List.take_prefix _ _))
  obtain ⟨after, hafter⟩ := hprefix
  have htake : (lead :: rest.take more).take maxStrayBytes =
      lead :: (rest.take more).take (maxStrayBytes - 1) := rfl
  refine ⟨kept, after, hafter.symm, ?_, List.forall_mem_cons.mpr ⟨h, fun b hb => ?_⟩⟩
  · rw [strayBytes, htake, List.takeWhile_cons_of_pos (p := high) (decide_eq_true h)]
  · exact of_decide_eq_true (List.mem_takeWhile_imp (p := high) hb)

namespace Utf8

/-! ## One character -/

theorem ofNat_eq {n : Nat} {b : UInt8} (h : b.toNat = n) : UInt8.ofNat n = b := by
  rw [← h, UInt8.ofNat_toNat]

theorem continuation_eq {n : Nat} {b : UInt8} (h : b.toNat = 0x80 + n % 64) :
    continuation n = b :=
  ofNat_eq h

/-- Where a character is read on, the next byte is in its range. -/
theorem continued_eq_text {count low high value seen more : Nat} {rest : List UInt8} {text : Text}
    (h : continued (count + 1) low high value seen rest = .text text more) :
    ∃ b after, rest = b :: after ∧ low ≤ b.toNat ∧ b.toNat ≤ high ∧
      continued count 0x80 0xBF (value * 64 + b.toNat % 64) (seen + 1) after =
        .text text more := by
  cases rest with
  | nil => cases h
  | cons b after =>
      rw [continued] at h
      split at h
      · next hrange => exact ⟨b, after, rfl, hrange.1, hrange.2, h⟩
      · cases h

/-- A number that a character can have. -/
def Scalar (n : Nat) : Prop :=
  n < 0xD800 ∨ 0xDFFF < n ∧ n < 0x110000

theorem toNat_ofNat_char {n : Nat} (h : Scalar n) : (Char.ofNat n).toNat = n := by
  have hvalid : n.isValidChar := h
  rw [Char.ofNat, dif_pos hvalid]
  rfl

/-- What is read with one continuation byte is written with it. -/
theorem encodeChar_of_continued_one {lead : UInt8} {value more : Nat} {rest : List UInt8}
    {text : Text} (hlead : lead.toNat = 0xC0 + value) (hlow : 2 ≤ value) (hhigh : value < 32)
    (h : continued 1 0x80 0xBF value 0 rest = .text text more) :
    ∃ c tail after, text = [c] ∧ rest = tail ++ after ∧ more = tail.length ∧
      encodeChar c = lead :: tail := by
  obtain ⟨b, after, rfl, hb, hb', h⟩ := continued_eq_text h
  obtain ⟨rfl, rfl⟩ : [Char.ofNat (value * 64 + b.toNat % 64)] = text ∧ 1 = more := by
    simpa [continued] using h
  refine ⟨_, [b], after, rfl, rfl, rfl, ?_⟩
  rw [encodeChar, toNat_ofNat_char (.inl (by omega))]
  rw [if_neg (by omega), if_pos (by omega), ofNat_eq (b := lead) (by omega),
    continuation_eq (b := b) (by omega)]

/-- What is read with two is written with them. -/
theorem encodeChar_of_continued_two {lead : UInt8} {low high value more : Nat}
    {rest : List UInt8} {text : Text} (hlead : lead.toNat = 0xE0 + value)
    (hlow : 0x800 ≤ value * 4096 + (low - 0x80) * 64) (hlow' : 0x80 ≤ low)
    (hhigh : high ≤ 0xBF) (hvalue : value < 16)
    (hscalar : value ≠ 13 ∨ high ≤ 0x9F)
    (h : continued 2 low high value 0 rest = .text text more) :
    ∃ c tail after, text = [c] ∧ rest = tail ++ after ∧ more = tail.length ∧
      encodeChar c = lead :: tail := by
  obtain ⟨b, after, rfl, hb, hb', h⟩ := continued_eq_text h
  obtain ⟨b', after, rfl, hc, hc', h⟩ := continued_eq_text h
  obtain ⟨rfl, rfl⟩ :
      [Char.ofNat ((value * 64 + b.toNat % 64) * 64 + b'.toNat % 64)] = text ∧ 2 = more := by
    simpa [continued] using h
  refine ⟨_, [b, b'], after, rfl, rfl, rfl, ?_⟩
  have hn : Scalar ((value * 64 + b.toNat % 64) * 64 + b'.toNat % 64) := by
    unfold Scalar
    omega
  rw [encodeChar, toNat_ofNat_char hn]
  rw [if_neg (by omega), if_neg (by omega), if_pos (by omega), ofNat_eq (b := lead) (by omega),
    continuation_eq (b := b) (by omega), continuation_eq (b := b') (by omega)]

/-- What is read with three is written with them. -/
theorem encodeChar_of_continued_three {lead : UInt8} {low high value more : Nat}
    {rest : List UInt8} {text : Text} (hlead : lead.toNat = 0xF0 + value)
    (hlow : 0x10000 ≤ value * 262144 + (low - 0x80) * 4096) (hlow' : 0x80 ≤ low)
    (hhigh : high ≤ 0xBF) (hscalar : value < 4 ∨ value = 4 ∧ high ≤ 0x8F)
    (h : continued 3 low high value 0 rest = .text text more) :
    ∃ c tail after, text = [c] ∧ rest = tail ++ after ∧ more = tail.length ∧
      encodeChar c = lead :: tail := by
  obtain ⟨b, after, rfl, hb, hb', h⟩ := continued_eq_text h
  obtain ⟨b', after, rfl, hc, hc', h⟩ := continued_eq_text h
  obtain ⟨b'', after, rfl, hd, hd', h⟩ := continued_eq_text h
  obtain ⟨rfl, rfl⟩ :
      [Char.ofNat (((value * 64 + b.toNat % 64) * 64 + b'.toNat % 64) * 64 + b''.toNat % 64)] =
        text ∧ 3 = more := by
    simpa [continued] using h
  refine ⟨_, [b, b', b''], after, rfl, rfl, rfl, ?_⟩
  have hn : Scalar
      (((value * 64 + b.toNat % 64) * 64 + b'.toNat % 64) * 64 + b''.toNat % 64) := by
    unfold Scalar
    omega
  rw [encodeChar, toNat_ofNat_char hn]
  rw [if_neg (by omega), if_neg (by omega), if_neg (by omega), ofNat_eq (b := lead) (by omega),
    continuation_eq (b := b) (by omega), continuation_eq (b := b') (by omega),
    continuation_eq (b := b'') (by omega)]

/-- **What is read as a character are the bytes of that character.** -/
theorem encodeChar_of_front {lead : UInt8} {rest : List UInt8} {text : Text} {more : Nat}
    (h : front lead rest = .text text more) :
    ∃ c tail after, text = [c] ∧ rest = tail ++ after ∧ more = tail.length ∧
      encodeChar c = lead :: tail := by
  have hbyte : lead.toNat < 256 := lead.toNat_lt
  unfold front at h
  dsimp only at h
  split_ifs at h with hone _ htwo hE0 hED hthree hF0 hF3 hF4
  · obtain ⟨rfl, rfl⟩ : [Char.ofNat lead.toNat] = text ∧ 0 = more := by simpa using h
    refine ⟨_, [], rest, rfl, rfl, rfl, ?_⟩
    rw [encodeChar, toNat_ofNat_char (.inl (by omega))]
    rw [if_pos hone, UInt8.ofNat_toNat]
  · exact encodeChar_of_continued_one (by omega) (by omega) (by omega) h
  · exact encodeChar_of_continued_two (by omega) (by omega) (by omega) (by omega) (by omega)
      (by omega) h
  · exact encodeChar_of_continued_two (by omega) (by omega) (by omega) (by omega) (by omega)
      (by omega) h
  · exact encodeChar_of_continued_two (by omega) (by omega) (by omega) (by omega) (by omega)
      (by omega) h
  · exact encodeChar_of_continued_three (by omega) (by omega) (by omega) (by omega) (by omega) h
  · exact encodeChar_of_continued_three (by omega) (by omega) (by omega) (by omega) (by omega) h
  · exact encodeChar_of_continued_three (by omega) (by omega) (by omega) (by omega) (by omega) h

/-- No malformed run starts with ASCII. -/
theorem le_of_front_malformed {lead : UInt8} {rest : List UInt8} {more : Nat} {reason : Text}
    (h : front lead rest = .malformed more reason) : 0x80 ≤ lead.toNat := by
  refine Nat.le_of_not_lt fun hascii => ?_
  unfold front at h
  rw [if_pos hascii] at h
  cases h

/-! ## All bytes -/

theorem encodeCapture_append (xs ys : Capture) :
    encodeCapture (xs ++ ys) = encodeCapture xs ++ encodeCapture ys :=
  List.flatMap_append

/-- A character is written back as its bytes. -/
theorem encodeCapture_char_cons (c : Char) (capture : Capture) :
    encodeCapture (.char c :: capture) = encodeChar c ++ encodeCapture capture := rfl

/-- Stray bytes are written back as they are. -/
theorem encodeCapture_map_byte (bytes : List UInt8) :
    encodeCapture (bytes.map Symbol.byte) = bytes := by
  induction bytes with
  | nil => rfl
  | cons b rest ih => exact congrArg (b :: ·) ih

/-- **All bytes are read**, and what is read stands for them. -/
theorem exists_scan (bytes : List UInt8) (position : Nat) (written : Capture) :
    ∃ capture : Capture,
      scan (stateless front) Symbol.char strayBytes () position 0 written bytes =
        .ok (written.reverse ++ capture) ∧
      capture.StandsFor bytes := by
  induction hlength : bytes.length using Nat.strongRecOn generalizing bytes position written with
  | ind n ih =>
    subst hlength
    cases bytes with
    | nil => exact ⟨[], by simp [scan], ⟨rfl, by simp⟩⟩
    | cons lead rest =>
      cases hfront : front lead rest with
      | text text more =>
        obtain ⟨c, tail, after, rfl, rfl, rfl, hchar⟩ := encodeChar_of_front hfront
        have hshorter : after.length < (lead :: (tail ++ after)).length := by
          simp only [List.length_cons, List.length_append]
          omega
        obtain ⟨capture, hscan, ⟨hback, hstray⟩⟩ :=
          ih after.length hshorter after (position + (lead :: tail).length)
            (([c].map Symbol.char).reverse ++ written) rfl
        refine ⟨.char c :: capture, ?_, ?_, by simpa using hstray⟩
        · rw [← List.cons_append, scan_text (by rw [stateless, hfront]), hscan]
          simp
        · rw [encodeCapture_char_cons, hback, hchar, List.cons_append]
      | malformed more reason =>
        obtain ⟨kept, after, rfl, hkept, hhigh⟩ :=
          strayBytes_spec (le_of_front_malformed hfront) rest more
        have hshorter : after.length < (lead :: (kept ++ after)).length := by
          simp only [List.length_cons, List.length_append]
          omega
        obtain ⟨capture, hscan, ⟨hback, hstray⟩⟩ :=
          ih after.length hshorter after (position + (lead :: kept).length)
            (((lead :: kept).map Symbol.byte).reverse ++ written) rfl
        refine ⟨(lead :: kept).map Symbol.byte ++ capture, ?_, ?_, ?_⟩
        · rw [← List.cons_append, scan_malformed (by rw [stateless, hfront]) (by simp [hkept]),
            hkept, hscan]
          simp
        · rw [encodeCapture_append, encodeCapture_map_byte, hback, List.cons_append]
        · intro b hb
          obtain hb | hb := List.mem_append.mp hb
          · exact hhigh b (by simpa using hb)
          · exact hstray b hb

end Utf8

/-- **Every output is captured**, and the capture stands for it. -/
theorem exists_capture (bytes : List UInt8) :
    ∃ capture, utf8.capture bytes = .ok capture ∧ capture.StandsFor bytes := by
  obtain ⟨capture, hscan, hstands⟩ := Utf8.exists_scan bytes 0 []
  refine ⟨capture, ?_, hstands⟩
  simp only [Encoding.capture, reading, Reading.run, Reading.plain, hscan]
  rfl

/-! ## Well-formed bytes -/

/-- The bytes of a character are those that the standard library gives it. -/
theorem Utf8.encodeChar_eq (c : Char) : encodeChar c = String.utf8EncodeChar c := by
  have hsmall : c.toNat < 0x110000 := by
    obtain hlow | hhigh : c.toNat < 0xD800 ∨ 0xDFFF < c.toNat ∧ c.toNat < 0x110000 := c.valid
    · omega
    · exact hhigh.2
  unfold encodeChar String.utf8EncodeChar
  rw [show c.val.toNat = c.toNat from rfl]
  generalize c.toNat = n at hsmall
  simp only [continuation, Nat.add_comm 0x80, Nat.add_comm 0xC0, Nat.add_comm 0xE0,
    Nat.add_comm 0xF0]
  by_cases hone : n < 0x80
  · rw [if_pos hone, if_pos (by omega)]
  by_cases htwo : n < 0x800
  · rw [if_neg hone, if_pos htwo, if_neg (by omega), if_pos (by omega),
      Nat.mod_eq_of_lt (show n / 64 < 32 by omega)]
  by_cases hthree : n < 0x10000
  · rw [if_neg hone, if_neg htwo, if_pos hthree, if_neg (by omega), if_neg (by omega),
      if_pos (by omega), Nat.mod_eq_of_lt (show n / 4096 < 16 by omega)]
  · rw [if_neg hone, if_neg htwo, if_neg hthree, if_neg (by omega), if_neg (by omega),
      if_neg (by omega), Nat.mod_eq_of_lt (show n / 262144 < 8 by omega)]

/-- **Well-formed UTF-8** are the bytes of the texts. -/
theorem isValidUTF8_iff {bytes : List UInt8} :
    bytes.toByteArray.IsValidUTF8 ↔ ∃ text, Utf8.encode text = bytes := by
  have hencode : ∀ text : Text, text.utf8Encode = (Utf8.encode text).toByteArray := by
    intro text
    rw [List.utf8Encode, Utf8.encode, funext Utf8.encodeChar_eq]
  constructor
  · rintro ⟨text, htext⟩
    rw [hencode] at htext
    exact ⟨text, (List.toByteArray_inj.mp htext).symm⟩
  · rintro ⟨text, rfl⟩
    exact ⟨text, (hencode text).symm⟩

/-- A capture without stray bytes is text. -/
theorem exists_ofText {capture : Capture} (h : ∀ b, Symbol.byte b ∉ capture) :
    ∃ text, capture = Capture.ofText text := by
  induction capture with
  | nil => exact ⟨[], rfl⟩
  | cons symbol rest ih =>
      obtain ⟨text, rfl⟩ := ih fun b hb => h b (List.mem_cons_of_mem symbol hb)
      cases symbol with
      | char c => exact ⟨c :: text, rfl⟩
      | byte b => exact absurd List.mem_cons_self (h b)

/-- Text is written back as its bytes. -/
theorem encodeCapture_ofText (text : Text) :
    Utf8.encodeCapture (Capture.ofText text) = Utf8.encode text :=
  List.flatMap_map ..

end Encoding

/-- **Malformed output is told by its stray bytes**: what stands for bytes that are
not well-formed has one. -/
theorem Capture.StandsFor.exists_byte {capture : Capture} {bytes : List UInt8}
    (hstands : capture.StandsFor bytes) (h : ¬ bytes.toByteArray.IsValidUTF8) :
    ∃ b, Symbol.byte b ∈ capture := by
  by_contra hnone
  obtain ⟨text, rfl⟩ := Encoding.exists_ofText (not_exists.mp hnone)
  rw [← hstands.written, Encoding.encodeCapture_ofText] at h
  exact h (Encoding.isValidUTF8_iff.mpr ⟨text, rfl⟩)

end SchemeCheck
