import TripQuery.Text.Blank

namespace TripQuery

/-!
# Modes of travel

A mode is one way of getting around. Queries name modes one by one, or several at once by an
alias; a set of modes is written by the names of its members. It is stored as one bit for each mode.
-/

inductive Mode
  | walk
  | bicycle
  | car
  | tram
  | subway
  | rail
  | bus
  | ferry
  | cableCar
  | gondola
  | funicular
  deriving DecidableEq, Repr

namespace Mode

/-- Every mode, in the order in which sets are listed. -/
def all : List Mode :=
  [walk, bicycle, car, tram, subway, rail, bus, ferry, cableCar, gondola, funicular]

theorem getElem?_all (m : Mode) : all[m.ctorIdx]? = some m := by
  cases m <;> rfl

theorem mem_all (m : Mode) : m ∈ all := List.mem_of_getElem? m.getElem?_all

def name : Mode → String
  | walk => "WALK"
  | bicycle => "BICYCLE"
  | car => "CAR"
  | tram => "TRAM"
  | subway => "SUBWAY"
  | rail => "RAIL"
  | bus => "BUS"
  | ferry => "FERRY"
  | cableCar => "CABLE_CAR"
  | gondola => "GONDOLA"
  | funicular => "FUNICULAR"

def title : Mode → String
  | walk => "Walk"
  | bicycle => "Bicycle"
  | car => "Car"
  | tram => "Tram"
  | subway => "Subway"
  | rail => "Rail"
  | bus => "Bus"
  | ferry => "Ferry"
  | cableCar => "CableCar"
  | gondola => "Gondola"
  | funicular => "Funicular"

def isTransit : Mode → Bool
  | walk | bicycle | car => false
  | _ => true

/-- The bit that stands for a mode in a set. -/
def bit (m : Mode) : BitVec 11 := 1#11 <<< m.ctorIdx

theorem exists_ctorIdx_eq {i : Nat} (h : i < 11) : ∃ m : Mode, m.ctorIdx = i := by
  have hall : ∀ i < 11, ∃ m ∈ all, m.ctorIdx = i := by decide
  obtain ⟨m, -, hm⟩ := hall i h
  exact ⟨m, hm⟩

theorem getLsbD_bit (m x : Mode) : m.bit.getLsbD x.ctorIdx = decide (x = m) := by
  cases m <;> cases x <;> rfl

theorem bit_ne_zero (m : Mode) : m.bit ≠ 0#11 := by
  cases m <;> decide

end Mode

/-- What one word of a query names: a mode, or several by an alias. -/
inductive ModeName
  | single (m : Mode)
  | transit
  | trainish
  | busish
  deriving DecidableEq, Repr

namespace ModeName

/-- The words that a query may use, in capital letters. -/
def vocabulary : List (String × ModeName) :=
  [("WALK", single .walk), ("BICYCLE", single .bicycle), ("CAR", single .car),
    ("TRAM", single .tram), ("SUBWAY", single .subway), ("RAIL", single .rail),
    ("BUS", single .bus), ("FERRY", single .ferry), ("CABLE_CAR", single .cableCar),
    ("GONDOLA", single .gondola), ("FUNICULAR", single .funicular), ("TRANSIT", transit),
    ("TRAINISH", trainish), ("BUSISH", busish)]

/-- The name spelled by a word, in any case. -/
def ofWord? (word : List Char) : Option ModeName :=
  (vocabulary.find? fun entry => decide (entry.1.toList = word.map Char.toUpper)).map Prod.snd

/-- The modes that the name stands for. -/
def modes : ModeName → List Mode
  | single m => [m]
  | transit => [.tram, .subway, .rail, .bus, .ferry, .cableCar, .gondola, .funicular]
  | trainish => [.tram, .subway, .rail]
  | busish => [.bus, .cableCar]

end ModeName

inductive ModeFault
  | unknown (word : String)
  | noneGiven
  deriving DecidableEq, Repr

def ModeFault.message : ModeFault → String
  | .unknown word => "invalid mode set: unknown mode " ++ word
  | .noneGiven => "invalid mode set: no modes given"

/-- A set of modes, by the bits of its members. -/
structure ModeSet where
  bits : BitVec 11
  deriving DecidableEq

namespace ModeSet

def has (s : ModeSet) (m : Mode) : Bool := s.bits &&& m.bit != 0

theorem has_eq_getLsbD (s : ModeSet) (m : Mode) : s.has m = s.bits.getLsbD m.ctorIdx := by
  have hne := m.bit_ne_zero
  rw [has, Mode.bit, ← BitVec.twoPow_eq, BitVec.and_twoPow]
  rw [Mode.bit, ← BitVec.twoPow_eq] at hne
  cases s.bits.getLsbD m.ctorIdx with
  | false => rfl
  | true => simpa using hne

@[ext] theorem ext {a b : ModeSet} (h : ∀ m, a.has m = b.has m) : a = b := by
  rw [mk.injEq]
  apply BitVec.eq_of_getLsbD_eq
  intro i hi
  obtain ⟨m, rfl⟩ := Mode.exists_ctorIdx_eq hi
  rw [← has_eq_getLsbD, ← has_eq_getLsbD, h]

def ofList (ms : List Mode) : ModeSet := ⟨ms.foldl (fun bits m => bits ||| m.bit) 0⟩

/-- The modes that some of the names stand for. -/
def ofNames (ns : List ModeName) : ModeSet :=
  ⟨ns.foldl (fun bits n => bits ||| (ofList n.modes).bits) 0⟩

theorem getLsbD_foldl_or {α : Type} (f : α → BitVec 11) (l : List α) (bits : BitVec 11) (i : Nat) :
    (l.foldl (fun bits a => bits ||| f a) bits).getLsbD i =
      (bits.getLsbD i || l.any fun a => (f a).getLsbD i) := by
  induction l generalizing bits with
  | nil => simp
  | cons a l ih => rw [List.foldl_cons, ih, BitVec.getLsbD_or, List.any_cons, Bool.or_assoc]

@[simp] theorem has_ofList (ms : List Mode) (m : Mode) :
    (ofList ms).has m = decide (m ∈ ms) := by
  rw [has_eq_getLsbD, ofList, getLsbD_foldl_or, Bool.eq_iff_iff]
  simp [Mode.getLsbD_bit]

@[simp] theorem has_ofNames (ns : List ModeName) (m : Mode) :
    (ofNames ns).has m = ns.any fun n => decide (m ∈ n.modes) := by
  rw [has_eq_getLsbD, ofNames, getLsbD_foldl_or]
  simp [← has_eq_getLsbD]

/-- The members, each once and in the order of `Mode.all`. -/
def members (s : ModeSet) : List Mode := Mode.all.filter s.has

theorem mem_members {s : ModeSet} {m : Mode} : m ∈ s.members ↔ s.has m = true := by
  simp [members, Mode.mem_all]

def isTransit (s : ModeSet) : Bool := s.members.any Mode.isTransit

theorem isTransit_iff {s : ModeSet} :
    s.isTransit = true ↔ ∃ m, s.has m = true ∧ m.isTransit = true := by
  simp only [isTransit, List.any_eq_true, mem_members]

/-- The names of the members, between commas. -/
def text (s : ModeSet) : String := ",".intercalate (s.members.map Mode.name)

def summary (s : ModeSet) : String :=
  "\x7b" ++ ", ".intercalate (s.members.map Mode.title) ++ "\x7d"

def standard : ModeSet := ofNames [.transit, .single .walk]

/-- Names stand between commas, plus signs and blanks. -/
def isSeparator (c : Char) : Bool := c == ',' || c == '+' || isBlank c

def words (cs : List Char) : List (List Char) :=
  (cs.splitOnP isSeparator).filter fun word => !word.isEmpty

def readWord (word : List Char) : Except ModeFault ModeName :=
  match ModeName.ofWord? word with
  | some n => .ok n
  | none => .error (.unknown (String.ofList word))

/-- Reads a set of modes: the modes that its words name, of which there is at least one. -/
def read (s : String) : Except ModeFault ModeSet := do
  let names ← (words s.toList).mapM readWord
  let modes := ofNames names
  if modes.bits = 0 then throw .noneGiven
  return modes

end ModeSet

end TripQuery
