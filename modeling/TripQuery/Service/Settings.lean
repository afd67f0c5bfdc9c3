import TripQuery.Numeral
import TripQuery.Service.SocketAddress
import TripQuery.Text.Quoted

namespace TripQuery

/-!
# Settings

The service takes the address it listens on and the largest number of searches in one call from
two variables. A variable that is not set leaves the standard value.
-/

structure Settings where
  address : SocketAddress
  /-- The largest number of searches that one call may ask for. -/
  setLimit : Nat
  deriving DecidableEq

inductive SettingCause
  | address
  | numeral (fault : Numeral.Fault)
  | zero
  deriving DecidableEq, Repr

def SettingCause.message : SettingCause → String
  | .address => "invalid socket address syntax"
  | .numeral fault => fault.message
  | .zero => "must be at least 1"

structure SettingFault where
  name : String
  value : String
  cause : SettingCause
  deriving DecidableEq, Repr

def SettingFault.message (f : SettingFault) : String :=
  "invalid value " ++ quoted f.value ++ " for " ++ f.name ++ ": " ++ f.cause.message

namespace Settings

def addressVariable : String := "PLAN_SERVER_ADDR"

def setLimitVariable : String := "PLAN_MAX_PLAN_SET"

def standard : Settings := ⟨.v4 ⟨127, 0, 0, 1⟩ 3000, 16⟩

def readAddress (value : String) : Except SettingFault SocketAddress :=
  match SocketAddress.read? value with
  | some address => .ok address
  | none => .error ⟨addressVariable, value, .address⟩

def readSetLimit (value : String) : Except SettingFault Nat :=
  match Numeral.read Numeral.sizeLimit value.toList with
  | .ok 0 => .error ⟨setLimitVariable, value, .zero⟩
  | .ok n => .ok n
  | .error fault => .error ⟨setLimitVariable, value, .numeral fault⟩

def readOr {α : Type} (standard : α) (read : String → Except SettingFault α) :
    Option String → Except SettingFault α
  | none => .ok standard
  | some value => read value

/-- The settings given by the variables; the address is looked at first. -/
def load (lookup : String → Option String) : Except SettingFault Settings := do
  let address ← readOr standard.address readAddress (lookup addressVariable)
  let setLimit ← readOr standard.setLimit readSetLimit (lookup setLimitVariable)
  return ⟨address, setLimit⟩

end Settings

end TripQuery
