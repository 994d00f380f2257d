import Gpgme.Error
import Gpgme.Lib.CString

/-! Reads that give as many bytes as the system likes. -/

namespace Gpgme

/-- How the system answers to one read: with up to so many bytes, but at least one of what is left,
or with an error.
-/
inductive IoAnswer where
  | upTo (size : Nat)
  | failed (errno : Nat)
deriving DecidableEq

/-- `_gpgme_io_read` with room for so many bytes: the bytes that it stores, which are none at the
end, and what is left.
-/
def ioRead (answer : IoAnswer) (left : Str) (room : Nat) : Except GpgError (Str × Str) :=
  match answer with
  | .failed errno => .error (gpgErrorFromSyserror errno)
  | .upTo size => .ok (left.take (min (max size 1) room), left.drop (min (max size 1) room))

/-- What a read gives comes from the front of what was left, and it fits. -/
theorem ioRead_ok {answer : IoAnswer} {left bytes rest : Str} {room : Nat}
    (read : ioRead answer left room = .ok (bytes, rest))
    : left = bytes ++ rest ∧ bytes.length ≤ room := by
  cases answer with
  | failed errno => cases read
  | upTo size =>
      cases read
      refine ⟨(List.take_append_drop _ left).symm, ?_⟩
      rw [List.length_take]
      omega

/-- Only at the end a read gives nothing. -/
theorem ioRead_end {size room : Nat} {left rest : Str} (space : 0 < room)
    (read : ioRead (.upTo size) left room = .ok ([], rest))
    : left = [] := by
  have nothing := (Prod.mk.inj (Except.ok.inj read)).1
  rw [List.take_eq_nil_iff] at nothing
  rcases nothing with none | empty
  · omega
  · exact empty

end Gpgme
