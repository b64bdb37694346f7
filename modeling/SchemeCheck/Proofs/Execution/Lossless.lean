import SchemeCheck.Proofs.Encoding.Lossless
import SchemeCheck.Proofs.Execution.Completion
import SchemeCheck.Proofs.Report

/-!
# SchemeCheck.Proofs.Execution.Lossless

Captured output loses nothing.  A run in UTF-8 has an outcome whatever its
process writes, and from the outcome the bytes that were written can be told;
a plan is text, so no plan is met by output that is not: `run_lossless`.
-/

namespace SchemeCheck

/-- Comparing looks at every stray byte. -/
theorem Capture.byte_mem_canonical_iff {capture : Capture} {b : UInt8} :
    Symbol.byte b ∈ capture.canonical ↔ Symbol.byte b ∈ capture := by
  constructor
  · rw [canonical, ← Text.closeLines_cutLines (by decide), Text.closeLines]
    intro hmem
    obtain ⟨body, hbody, hmem⟩ := List.mem_flatMap.mp hmem
    exact (Text.infix_of_mem_cutLines hbody).mem (by simpa using hmem)
  · intro hmem
    refine Text.mem_replaceAll (by simp) (by simp) _ ?_
    unfold Text.closed
    split
    · exact hmem
    · exact List.mem_append_left _ hmem

/-- Text has no stray bytes. -/
theorem Capture.byte_not_mem_ofText (b : UInt8) (text : Text) :
    Symbol.byte b ∉ Capture.ofText text := by
  simp [ofText]

/-- A capture with a stray byte is not canonically a text. -/
theorem Capture.canonical_ne_of_mem {capture : Capture} {b : UInt8}
    (h : Symbol.byte b ∈ capture) (text : Text) :
    capture.canonical ≠ (Capture.ofText text).canonical := by
  intro hsame
  rw [← byte_mem_canonical_iff, hsame, byte_mem_canonical_iff] at h
  exact byte_not_mem_ofText b text h

namespace Execution

/-- A run in UTF-8 starts a process that writes the given bytes and ends with the
given code. -/
structure Writes (starter : Starter) (command : Command) (out err : List UInt8) (code : Int) :
    Prop where
  encoding : Encoding.lookup command.encoding = .ok .utf8
  process : ∃ running, starter (Start.ofCommand command) = .ok running ∧
    running.stdout (Encoding.Utf8.encode command.stdin) = out ∧
    running.stderr (Encoding.Utf8.encode command.stdin) = err ∧
    running.code = .valid code

variable {starter : Starter} {command : Command} {out err : List UInt8} {code : Int}

/-- What a run comes to stands for what its process has written. -/
theorem Writes.result_run (h : Writes starter command out err code) :
    ∃ outcome, (run starter command).result = .ok outcome ∧
      outcome.stdout.StandsFor out ∧ outcome.stderr.StandsFor err ∧
      outcome.returnCode = code := by
  obtain ⟨running, hstart, rfl, rfl, hcode⟩ := h.process
  obtain ⟨stdout, hstdout, hout⟩ :=
    Encoding.exists_capture (running.stdout (Encoding.Utf8.encode command.stdin))
  obtain ⟨stderr, hstderr, herr⟩ :=
    Encoding.exists_capture (running.stderr (Encoding.Utf8.encode command.stdin))
  have hinput : inputOf command = .ok (.utf8, Encoding.Utf8.encode command.stdin) :=
    inputOf_eq_ok_iff.mpr ⟨h.encoding, rfl⟩
  refine ⟨{ stdout := stdout, stderr := stderr, returnCode := code }, ?_, hout, herr, rfl⟩
  simp only [run, hstart, hinput, outcomeOf, hstdout, hstderr, hcode]
  rfl

/-- **Lossless**: a run in UTF-8 has an outcome, which written back is just what the
process wrote; a run whose process writes anything else has another outcome; and
no plan is met if what was written is not well-formed. -/
theorem run_lossless (h : Writes starter command out err code) :
    ∃ outcome, (run starter command).result = .ok outcome ∧
      outcome.stdout.StandsFor out ∧ outcome.stderr.StandsFor err ∧
      outcome.returnCode = code ∧
      (∀ starter' command' out' err' code', Writes starter' command' out' err' code' →
        out' ≠ out ∨ err' ≠ err → (run starter' command').result ≠ (run starter command).result) ∧
      (¬ out.toByteArray.IsValidUTF8 ∨ ¬ err.toByteArray.IsValidUTF8 →
        ∀ plan, (Report.compare plan outcome).passed = false) := by
  obtain ⟨outcome, hresult, hout, herr, hcode⟩ := h.result_run
  refine ⟨outcome, hresult, hout, herr, hcode, ?_, ?_⟩
  · intro starter' command' out' err' code' h' hother hsame
    obtain ⟨outcome', hresult', hout', herr', -⟩ := h'.result_run
    obtain rfl : outcome' = outcome :=
      Except.ok.inj (hresult'.symm.trans (hsame.trans hresult))
    obtain hne | hne := hother
    · exact hne (hout'.written.symm.trans hout.written)
    · exact hne (herr'.written.symm.trans herr.written)
  · intro hmalformed plan
    rw [← Bool.not_eq_true, Report.passed_compare_iff]
    rintro ⟨-, hstdout, hstderr⟩
    obtain hmalformed | hmalformed := hmalformed
    · obtain ⟨b, hb⟩ := hout.exists_byte hmalformed
      exact Capture.canonical_ne_of_mem hb plan.stdout hstdout
    · obtain ⟨b, hb⟩ := herr.exists_byte hmalformed
      exact Capture.canonical_ne_of_mem hb plan.stderr hstderr

/-- An overlong form, a surrogate, a number that is too large and a sequence that is
cut short, beside the same output with a whole sequence at its end. -/
theorem run_lossless_malformed :
    let bytes : List UInt8 := [97, 0xC0, 0xAF, 0xED, 0xB2, 0x80, 0xF4, 0x90, 0x80, 0x80, 0xE2, 0x82]
    let command : Command :=
      { program := "p".toList, args := [], cwd := Path.ofText "/r".toList, env := []
        stdin := "é".toList, encoding := "UTF8".toList }
    let starter (out : List UInt8) : Starter := fun _ => .ok
      { stdout := fun _ => out, stderr := id, code := .valid 1 }
    ∃ outcome, (run (starter bytes) command).result = .ok outcome ∧
      Encoding.Utf8.encodeCapture outcome.stdout = bytes ∧
      Encoding.Utf8.encodeCapture outcome.stderr = [0xC3, 0xA9] ∧
      (run (starter (bytes ++ [0xAC])) command).result ≠ (run (starter bytes) command).result ∧
      ∀ plan, (Report.compare plan outcome).passed = false := by
  intro bytes command starter
  have hinput : Encoding.Utf8.encode command.stdin = [0xC3, 0xA9] := by decide +kernel
  have hwrites (out : List UInt8) : Writes (starter out) command out [0xC3, 0xA9] 1 :=
    ⟨by decide +kernel, _, rfl, rfl, hinput, rfl⟩
  obtain ⟨outcome, hresult, hout, herr, -, hother, hrefused⟩ := run_lossless (hwrites bytes)
  exact ⟨outcome, hresult, hout.written, herr.written,
    hother _ _ _ _ _ (hwrites (bytes ++ [0xAC])) (.inl (by decide)),
    hrefused (.inl (by decide +kernel))⟩

end Execution

end SchemeCheck
