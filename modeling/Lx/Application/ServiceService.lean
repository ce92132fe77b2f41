import Lx.Contracts

/-!
# ServiceService

Unit-name validation and the service calls built on it
(`src/application/ServiceService.cpp`).
-/

namespace Lx

open Interaction

/-- The service layer; its only member is the provider it calls. -/
structure ServiceService where
  deriving DecidableEq, Repr

namespace ServiceService

/-! ## §1 Unit names -/

def validUnitCharacter (character : UInt8) : Bool :=
  Bytes.isAlnum character || character == 58 || character == 95 || character == 45 ||
    character == 46 || character == 64 || character == 92

def invalidUnit (message : Bytes) : Result Bytes :=
  .error ⟨.invalidArgument, message, 0, "service", "validate unit"⟩

def suffix : Bytes := Bytes.ofString ".service"

/-- Check a unit name and append `.service` when it is missing. -/
def normalizeUnit (unit : Bytes) : Result Bytes :=
  if unit.isEmpty then invalidUnit "Service unit must not be empty"
  else if unit.length > 247 then invalidUnit "Service unit name is too long"
  else if unit.any (!validUnitCharacter ·) then
    invalidUnit "Service unit contains an invalid character"
  else if suffix.isSuffixOf unit then .ok unit
  else .ok (unit ++ suffix)

/-- The names that are accepted. -/
def Acceptable (unit : Bytes) : Prop :=
  unit ≠ [] ∧ unit.length ≤ 247 ∧ ∀ character ∈ unit, validUnitCharacter character = true

theorem normalizeUnit_of_acceptable {unit : Bytes} (h : Acceptable unit) :
    normalizeUnit unit = .ok (if suffix.isSuffixOf unit then unit else unit ++ suffix) := by
  obtain ⟨hempty, hlength, hvalid⟩ := h
  have hcharacters : ¬unit.any (!validUnitCharacter ·) := by simpa using hvalid
  rw [normalizeUnit, if_neg (by simpa using hempty), if_neg (by omega), if_neg hcharacters]
  split <;> rfl

theorem acceptable_of_normalizeUnit {unit normalized : Bytes}
    (h : normalizeUnit unit = .ok normalized) : Acceptable unit := by
  unfold normalizeUnit invalidUnit at h
  by_cases hempty : unit.isEmpty
  · rw [if_pos hempty] at h
    cases h
  rw [if_neg hempty] at h
  by_cases hlength : unit.length > 247
  · rw [if_pos hlength] at h
    cases h
  rw [if_neg hlength] at h
  by_cases hcharacters : unit.any (!validUnitCharacter ·)
  · rw [if_pos hcharacters] at h
    cases h
  exact ⟨by simpa using hempty, by omega, by simpa using hcharacters⟩

theorem normalizeUnit_of_long {unit : Bytes} (h : 247 < unit.length) :
    normalizeUnit unit = invalidUnit "Service unit name is too long" := by
  have hempty : ¬unit.isEmpty := by
    intro hempty
    rw [List.isEmpty_iff.mp hempty] at h
    cases h
  rw [normalizeUnit, if_neg hempty, if_pos h]

/-- **Normalisation**: what is accepted gets the suffix it lacks. -/
theorem normalizeUnit_ok_iff {unit normalized : Bytes} :
    normalizeUnit unit = .ok normalized ↔ Acceptable unit ∧
      normalized = if suffix.isSuffixOf unit then unit else unit ++ suffix := by
  constructor
  · intro h
    have hacceptable := acceptable_of_normalizeUnit h
    rw [normalizeUnit_of_acceptable hacceptable] at h
    exact ⟨hacceptable, (Except.ok.inj h).symm⟩
  · rintro ⟨hacceptable, rfl⟩
    exact normalizeUnit_of_acceptable hacceptable

theorem acceptable_suffix : ∀ character ∈ suffix, validUnitCharacter character = true := by
  have h : suffix.all validUnitCharacter = true := by decide
  exact List.all_eq_true.mp h

/-- A normalised name carries the suffix, so it is accepted again exactly if it is short
    enough, and then left as it is. -/
theorem normalizeUnit_again_iff {unit normalized : Bytes} (h : normalizeUnit unit = .ok normalized) :
    normalizeUnit normalized = .ok normalized ↔
      suffix.isSuffixOf unit = true ∨ unit.length ≤ 239 := by
  obtain ⟨⟨hempty, hlength, hvalid⟩, rfl⟩ := normalizeUnit_ok_iff.mp h
  by_cases hsuffix : suffix.isSuffixOf unit
  · rw [if_pos hsuffix] at h ⊢
    exact iff_of_true h (.inl hsuffix)
  · rw [if_neg hsuffix]
    have hcarries : suffix.isSuffixOf (unit ++ suffix) = true :=
      List.isSuffixOf_iff_suffix.mpr (List.suffix_append unit suffix)
    have hsize : (unit ++ suffix).length = unit.length + 8 := by
      rw [List.length_append]
      rfl
    rw [normalizeUnit_ok_iff, if_pos hcarries]
    constructor
    · rintro ⟨⟨-, hagain, -⟩, -⟩
      right
      omega
    · rintro (hcontra | hshort)
      · exact absurd hcontra hsuffix
      · refine ⟨⟨by simp [hempty], by omega, fun character hmem => ?_⟩, rfl⟩
        rcases List.mem_append.mp hmem with hmem | hmem
        · exact hvalid character hmem
        · exact acceptable_suffix character hmem

/-! ## §2 Provider calls -/

def list (_self : ServiceService) : App (Result (Observation (List ServiceInfo))) :=
  contract .listServices

def inspect (_self : ServiceService) (unit : Bytes) : App (Result (Observation ServiceInfo)) :=
  match normalizeUnit unit with
  | .error error => return .error error
  | .ok normalized => contract (.getService normalized)

def unitByPid (_self : ServiceService) (pid : Int) : App (Result (Option Bytes)) :=
  if pid ≤ 0 then
    return .error ⟨.invalidArgument, "PID must be greater than zero", 0,
      "service", "resolve PID"⟩
  else lookupUnit pid

/-- `start`, `stop` and `restart` differ only in the provider call they end in. -/
def control (_self : ServiceService) (action : ServiceAction) (unit : Bytes) : App (Result Unit) :=
  match normalizeUnit unit with
  | .error error => return .error error
  | .ok normalized => controlService action normalized

def start (self : ServiceService) (unit : Bytes) : App (Result Unit) := self.control .start unit

def stop (self : ServiceService) (unit : Bytes) : App (Result Unit) := self.control .stop unit

def restart (self : ServiceService) (unit : Bytes) : App (Result Unit) := self.control .restart unit

/-- A lifecycle request reaches the provider once, for the normalised unit, or not at all. -/
theorem control_run {self : ServiceService} {action : ServiceAction} {unit : Bytes}
    {t : Trace Contract} {r : Result Unit} (h : (self.control action unit).Run t r) :
    (∃ error, normalizeUnit unit = .error error ∧ t = [] ∧ r = .error error) ∨
    (∃ normalized, normalizeUnit unit = .ok normalized ∧
      t = [⟨.controlService action normalized, r⟩]) := by
  unfold control at h
  cases hn : normalizeUnit unit with
  | error error =>
    simp only [hn, Prog.pure_eq_ret, Prog.run_ret] at h
    exact .inl ⟨error, rfl, h.1, h.2⟩
  | ok normalized =>
    simp only [hn, controlService] at h
    exact .inr ⟨normalized, rfl, Prog.run_perform.mp h⟩

end ServiceService

end Lx
