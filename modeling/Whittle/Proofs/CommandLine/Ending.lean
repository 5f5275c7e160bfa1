import Whittle.Proofs.CommandLine.Setup
import Whittle.Proofs.Files.Folders
import Whittle.Proofs.Project.Halting

namespace Whittle

instance decidableEqError {ε α : Type} [DecidableEq ε] (result : Except ε α) (e : ε) : Decidable (result = .error e) :=
  match result with
  | .ok _ => isFalse nofun
  | .error f => decidable_of_iff (f = e) ⟨congrArg Except.error, Except.error.inj⟩

namespace CommandLine

end CommandLine

end Whittle
