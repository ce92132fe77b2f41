import Lx.Application.PortService

/-!
# ResourceResolver

What a resource expression of `lx inspect` refers to
(`src/application/ResourceResolver.cpp`): `port:`, `pid:` and `service:` say it, a bare
number or name is looked for.
-/

namespace Lx

open Interaction

structure ResourceResolver where
  portService_ : PortService
  processService_ : ProcessService
  serviceService_ : ServiceService
  deriving DecidableEq, Repr

namespace ResourceResolver

/-! ## §1 Expressions with a colon -/

def positiveInteger (text : Bytes) (maximum : Nat) (kind : Bytes) : Result Nat :=
  match (Bytes.fromChars 64 text).filter fun value => 0 < value ∧ value ≤ maximum with
  | some value => .ok value
  | none => .error ⟨.invalidArgument,
      Bytes.ofString "Invalid " ++ kind ++ Bytes.ofString ": " ++ text, 0,
      "resource-resolver", "parse"⟩

/-- The text before the first colon says what the text after it is. -/
def resolveExplicit (leading value : Bytes) : Result ResourceTarget :=
  if leading = Bytes.ofString "port" then
    (positiveInteger value 65535 "port").map .port
  else if leading = Bytes.ofString "pid" then
    (positiveInteger value (2 ^ 31 - 1) "PID").map fun pid => .process pid
  else if leading = Bytes.ofString "service" then
    (ServiceService.normalizeUnit value).map .service
  else .error ⟨.invalidArgument,
    Bytes.ofString "Unknown resource prefix \"" ++ leading ++
      Bytes.ofString "\"; use port:, pid:, or service:", 0, "resource-resolver", "resolve"⟩

/-! ## §2 Bare expressions -/

def notFound (expression : Bytes) : Error :=
  ⟨.notFound, Bytes.ofString "No observable resource matched \"" ++ expression ++
    Bytes.ofString "\"", 0, "resource-resolver", "resolve"⟩

def processExists (self : ResourceResolver) (number : Nat) : App Bool :=
  if number ≤ 2 ^ 31 - 1 then do return (← self.processService_.inspect number).isOk
  else return false

def portExists (self : ResourceResolver) (number : Nat) : App Bool :=
  if number ≤ 65535 then do
    match ← self.portService_.inspect { localPort := some number } with
    | .error _ => return false
    | .ok ports => return !ports.value.isEmpty
  else return false

/-- A number is the port or the process that exists, if not both do. -/
def resolveNumber (self : ResourceResolver) (expression : Bytes) (number : Nat) :
    App (Result ResourceTarget) := do
  let processExists ← self.processExists number
  let portExists ← self.portExists number
  if processExists && portExists then
    return .error ⟨.conflict,
      Bytes.ofString "Multiple resources matched \"" ++ expression ++
        Bytes.ofString "\": port:" ++ expression ++ Bytes.ofString " and pid:" ++ expression, 0,
      "resource-resolver", "resolve"⟩
  else if portExists then return .ok (.port number)
  else if processExists then return .ok (.process number)
  else return .error (notFound expression)

/-- A name is a service, or the one process that has it. -/
def resolveName (self : ResourceResolver) (expression : Bytes) : App (Result ResourceTarget) := do
  match ← self.serviceService_.inspect expression with
  | .ok service => return .ok (.service service.value.unitName)
  -- whatever the reason, a name that is no service may still be a process
  | .error _ =>
    match ← self.processService_.list { name := some expression } with
    | .error error => return .error error
    | .ok processes =>
      match processes.value with
      | [] => return .error (notFound expression)
      | [process] => return .ok (.process process.pid)
      | several => return .error ⟨.conflict,
          Bytes.ofString "Multiple processes matched \"" ++ expression ++
            Bytes.ofString "\"; use" ++ several.flatMap fun process =>
              Bytes.ofString " pid:" ++ Bytes.ofInt process.pid, 0,
          "resource-resolver", "resolve"⟩

def resolve (self : ResourceResolver) (expression : Bytes) : App (Result ResourceTarget) :=
  if expression.isEmpty then
    return .error ⟨.invalidArgument, "Resource expression must not be empty", 0,
      "resource-resolver", "resolve"⟩
  else if 58 ∈ expression then
    return resolveExplicit (expression.takeWhile (· ≠ 58))
      ((expression.dropWhile (· ≠ 58)).drop 1)
  else
    -- zero is not positive, so `0` is taken for a name
    match positiveInteger expression (2 ^ 64 - 1) "number" with
    | .ok number => self.resolveNumber expression number
    | .error _ => self.resolveName expression

/-- `service:` followed by a unit asks nobody. -/
theorem resolve_service (self : ResourceResolver) (unit : Bytes) :
    self.resolve (Bytes.ofString "service:" ++ unit) =
      pure ((ServiceService.normalizeUnit unit).map .service) := by
  have hleading : (Bytes.ofString "service:" ++ unit).takeWhile (· ≠ 58) =
      Bytes.ofString "service" := rfl
  have hvalue : ((Bytes.ofString "service:" ++ unit).dropWhile (· ≠ 58)).drop 1 = unit := rfl
  have hcolon : 58 ∈ Bytes.ofString "service:" ++ unit :=
    List.mem_append_left unit (by decide)
  -- the two kinds that are tried before
  have hport : Bytes.ofString "service" ≠ Bytes.ofString "port" := by decide
  have hpid : Bytes.ofString "service" ≠ Bytes.ofString "pid" := by decide
  rw [resolve, if_neg (by exact Bool.false_ne_true), if_pos hcolon, hleading, hvalue,
    resolveExplicit, if_neg hport, if_neg hpid, if_pos rfl]

end ResourceResolver

end Lx
