import ClusterConsole.Node.ErrorReport
import ClusterConsole.Proofs.Json.Object

/-! # Error reports there and back

What is written for a report is read as the same report, whatever its message. -/

namespace ClusterConsole
open Json

namespace ErrorCode

theorem ofName?_name (code : ErrorCode) : ofName? code.name = some code := by
  cases code <;> rfl

theorem write_reads (levels : Nat) (code : ErrorCode) : Reads (read levels) (writeString code.name) code := by
  intro rest _
  rw [encode_writeString, read, skipSpace_cons rfl]
  dsimp only
  rw [if_neg (by decide), if_pos rfl, stringText_encode, ok_bind]
  dsimp only
  rw [ofName?_name]

end ErrorCode

namespace ErrorReport

theorem write_reads (levels : Nat) (r : ErrorReport) : Reads (read (levels + 1)) r.write r := by
  have hmembers : ReadsMembers (readMember levels) {}
      [("code", writeString r.code.name), ("message", writeString r.message)]
      { code := some r.code, message := some r.message } :=
    .cons ((ErrorCode.write_reads levels r.code).colon.map fun code => ({ code := some code } : Draft))
      (.cons ((string_reads r.message).colon.map fun message =>
        ({ code := some r.code, message := some message } : Draft)) (.nil _))
  rw [write, writeObject_eq]
  refine record_reads "ApiError" .nil fun rest => ?_
  rw [readMembers, (hmembers.pieces true).members .nil rest, ok_bind]

theorem decode_encode_write (r : ErrorReport) : decode (Utf8.encode r.write) = .ok r := by
  have hread := document_reads .nil (write_reads 126 r)
  rwa [List.append_nil] at hread

end ErrorReport
end ClusterConsole
