/-
This file is about the opcode gadgets. The interpreter dispatches on the opcode at its
program counter; the gadgets replace fourteen entries of its table by entries that run their
own operation and, when the opcode after it makes a ranked pair, the next one as well, without
going through the table. They do it with a gas table, a pair recognizer and an end check of
their own, and the comparison with the interpreter that takes one opcode at a time is about
these.
-/

import Zkdeal.Types
import Zkdeal.Library.Fusion

namespace Zkdeal

open Words Fusion

/-! ### The interpreter -/

/-- Why the interpreter has stopped. `unreachable` is a panic; the other reasons are left to
the instructions. -/
inductive Halt (Action : Type) where
  | outOfGas
  | unreachable
  | action (action : Action)
deriving DecidableEq

/-- The interpreter at an instruction. The world is what the instructions see besides the stack
and the gas: memory, return data, the host. -/
structure Interpreter (Action World : Type) where
  bytecode : Bytes
  pc : Nat
  gas : U64
  stack : List U256
  halted : Option (Halt Action)
  world : World
deriving DecidableEq

/-- An entry of the instruction table. -/
structure Instruction (Action World : Type) where
  execute : Interpreter Action World → Interpreter Action World
  staticGas : U64

abbrev InstructionTable (Action World : Type) := U8 → Instruction Action World

section Interpreter

variable {Action World : Type}

namespace Interpreter

def isEnd (interpreter : Interpreter Action World) : Bool := interpreter.halted.isSome

/-- The opcode at the program counter. Bytecode is followed by `STOP`. -/
def opcode (interpreter : Interpreter Action World) : U8 :=
  interpreter.bytecode.getD interpreter.pc 0

def relativeJump (interpreter : Interpreter Action World) (offset : Nat) :
    Interpreter Action World :=
  { interpreter with pc := interpreter.pc + offset }

/-- Charge the cost, and tell whether there was not enough gas for it. -/
def recordCostUnsafe (interpreter : Interpreter Action World) (cost : U64) :
    Bool × Interpreter Action World :=
  (interpreter.gas < cost, { interpreter with gas := interpreter.gas - cost })

/-- Stop with all gas spent. -/
def haltOog (interpreter : Interpreter Action World) : Interpreter Action World :=
  { interpreter with gas := 0, halted := some .outOfGas }

/-- Read the opcode, advance, charge its static gas and run it. -/
def step (table : InstructionTable Action World) (interpreter : Interpreter Action World) :
    Interpreter Action World :=
  let instruction := table interpreter.opcode
  let charged := (interpreter.relativeJump 1).recordCostUnsafe instruction.staticGas
  if charged.1 then charged.2.haltOog else instruction.execute charged.2

/-- The configurations of a run, one pass of the loop after the other. -/
def run (table : InstructionTable Action World) :
    Interpreter Action World → Option (Interpreter Action World) :=
  pass isEnd (step table)

end Interpreter

end Interpreter

/-! ### Arithmetic and bitwise instructions -/

/-- The arithmetic and bitwise instructions of the interpreter. -/
inductive Operation where
  | add | mul | sub | div | sdiv | rem | smod | addmod | mulmod | exp | signextend
  | lt | gt | slt | sgt | eq | iszero | bitand | bitor | bitxor | not | byte
  | shl | shr | sar | clz
deriving DecidableEq

/-- What is left of the stack and the gas after an operation, and whether it has stopped the
interpreter. -/
structure Operands (Action : Type) where
  stack : List U256
  gas : U64
  halted : Option (Halt Action)
deriving DecidableEq

/-- The semantics of the operations: they act on the stack and the gas. -/
abbrev Arithmetic (Action : Type) := Operation → List U256 → U64 → Operands Action

section Arithmetic

variable {Action World : Type} (arithmetic : Arithmetic Action)

/-- Run one operation. -/
def Interpreter.call (operation : Operation) (interpreter : Interpreter Action World) :
    Interpreter Action World :=
  let result := arithmetic operation interpreter.stack interpreter.gas
  { interpreter with
    stack := result.stack
    gas := result.gas
    halted := result.halted }

/-- The arithmetic and bitwise part of the Osaka instruction table: the operation of an opcode
and its static gas. -/
def osakaOperation : U8 → Option (Operation × U64)
  | 0x01 => some (.add, 3)
  | 0x02 => some (.mul, 5)
  | 0x03 => some (.sub, 3)
  | 0x04 => some (.div, 5)
  | 0x05 => some (.sdiv, 5)
  | 0x06 => some (.rem, 5)
  | 0x07 => some (.smod, 5)
  | 0x08 => some (.addmod, 8)
  | 0x09 => some (.mulmod, 8)
  | 0x0a => some (.exp, 10)
  | 0x0b => some (.signextend, 5)
  | 0x10 => some (.lt, 3)
  | 0x11 => some (.gt, 3)
  | 0x12 => some (.slt, 3)
  | 0x13 => some (.sgt, 3)
  | 0x14 => some (.eq, 3)
  | 0x15 => some (.iszero, 3)
  | 0x16 => some (.bitand, 3)
  | 0x17 => some (.bitor, 3)
  | 0x18 => some (.bitxor, 3)
  | 0x19 => some (.not, 3)
  | 0x1a => some (.byte, 3)
  | 0x1b => some (.shl, 3)
  | 0x1c => some (.shr, 3)
  | 0x1d => some (.sar, 3)
  | 0x1e => some (.clz, 5)
  | _ => none

/-- The Osaka instruction table; its other entries may do anything. -/
def osakaTable (others : InstructionTable Action World) : InstructionTable Action World :=
  fun opcode =>
    match osakaOperation opcode with
    | some (operation, gas) => ⟨Interpreter.call arithmetic operation, gas⟩
    | none => others opcode

/-! ### The gadgets -/

/-- The gas table of the gadgets. -/
def staticGas (opcode : U8) : U64 :=
  match opcode with
  | 0x01 | 0x03 => 3
  | 0x02 | 0x04 | 0x05 | 0x06 | 0x07 | 0x0b => 5
  | 0x08 | 0x09 => 8
  | 0x0a => 10
  | 0x1e => 5
  | _ => if 0x10 ≤ opcode ∧ opcode ≤ 0x1d then 3 else 0

/-- Run the operation of a gadget-safe opcode; there is no other one. -/
def executePure (opcode : U8) (interpreter : Interpreter Action World) :
    Interpreter Action World :=
  match opcode with
  | 0x01 => interpreter.call arithmetic .add
  | 0x02 => interpreter.call arithmetic .mul
  | 0x03 => interpreter.call arithmetic .sub
  | 0x04 => interpreter.call arithmetic .div
  | 0x05 => interpreter.call arithmetic .sdiv
  | 0x06 => interpreter.call arithmetic .rem
  | 0x07 => interpreter.call arithmetic .smod
  | 0x08 => interpreter.call arithmetic .addmod
  | 0x09 => interpreter.call arithmetic .mulmod
  | 0x0a => interpreter.call arithmetic .exp
  | 0x0b => interpreter.call arithmetic .signextend
  | 0x10 => interpreter.call arithmetic .lt
  | 0x11 => interpreter.call arithmetic .gt
  | 0x12 => interpreter.call arithmetic .slt
  | 0x13 => interpreter.call arithmetic .sgt
  | 0x14 => interpreter.call arithmetic .eq
  | 0x15 => interpreter.call arithmetic .iszero
  | 0x16 => interpreter.call arithmetic .bitand
  | 0x17 => interpreter.call arithmetic .bitor
  | 0x18 => interpreter.call arithmetic .bitxor
  | 0x19 => interpreter.call arithmetic .not
  | 0x1a => interpreter.call arithmetic .byte
  | 0x1b => interpreter.call arithmetic .shl
  | 0x1c => interpreter.call arithmetic .shr
  | 0x1d => interpreter.call arithmetic .sar
  | 0x1e => interpreter.call arithmetic .clz
  | _ => { interpreter with halted := some .unreachable }

/-- Two adjacent opcodes as one number. -/
def opcodePair (first second : U8) : U16 := first.setWidth 16 <<< 8 ||| second.setWidth 16

/-- The second operation of a pair. -/
def secondOperation (pair : U16) : Option Operation :=
  match pair with
  | 0x1901 | 0x0101 | 0x0301 | 0x1b01 | 0x1601 | 0x0201 | 0x0401 => some .add
  | 0x0302 => some .mul
  | 0x1b03 | 0x0103 | 0x1603 | 0x1c03 | 0x1503 => some .sub
  | 0x0304 => some .div
  | 0x0306 => some .rem
  | 0x1610 | 0x0110 => some .lt
  | 0x0111 | 0x1611 => some .gt
  | 0x0112 | 0x0312 => some .slt
  | 0x1614 | 0x1014 => some .eq
  | 0x1015 | 0x1515 | 0x1415 | 0x1615 | 0x1115 | 0x1215 | 0x1715 => some .iszero
  | 0x0316 | 0x1916 | 0x1c16 | 0x1b16 | 0x0116 | 0x1616 => some .bitand
  | 0x1617 | 0x1117 | 0x1017 | 0x1b17 | 0x1717 | 0x1517 | 0x0417 => some .bitor
  | 0x0218 => some .bitxor
  | 0x0319 | 0x1b19 | 0x1c19 => some .not
  | 0x161b => some .shl
  | 0x1b1c | 0x161c => some .shr
  | _ => none

/-- Run the first operation and, if it makes a ranked pair with the opcode after it and has not
stopped the interpreter, the second one. -/
def executeFused (first : U8) (interpreter : Interpreter Action World) :
    Interpreter Action World :=
  let second := interpreter.opcode
  let pair := opcodePair first second
  let executed := executePure arithmetic first interpreter
  if executed.isEnd then executed
  else
    match secondOperation pair with
    | none => executed
    | some operation =>
      let charged := (executed.relativeJump 1).recordCostUnsafe (staticGas second)
      if charged.1 then charged.2.haltOog else charged.2.call arithmetic operation

/-! #### The entries -/

def fusedAdd : Interpreter Action World → Interpreter Action World :=
  executeFused arithmetic 0x01

def fusedMul : Interpreter Action World → Interpreter Action World :=
  executeFused arithmetic 0x02

def fusedSub : Interpreter Action World → Interpreter Action World :=
  executeFused arithmetic 0x03

def fusedDiv : Interpreter Action World → Interpreter Action World :=
  executeFused arithmetic 0x04

def fusedLt : Interpreter Action World → Interpreter Action World :=
  executeFused arithmetic 0x10

def fusedGt : Interpreter Action World → Interpreter Action World :=
  executeFused arithmetic 0x11

def fusedSlt : Interpreter Action World → Interpreter Action World :=
  executeFused arithmetic 0x12

def fusedEq : Interpreter Action World → Interpreter Action World :=
  executeFused arithmetic 0x14

def fusedIszero : Interpreter Action World → Interpreter Action World :=
  executeFused arithmetic 0x15

def fusedAnd : Interpreter Action World → Interpreter Action World :=
  executeFused arithmetic 0x16

def fusedOr : Interpreter Action World → Interpreter Action World :=
  executeFused arithmetic 0x17

def fusedNot : Interpreter Action World → Interpreter Action World :=
  executeFused arithmetic 0x19

def fusedShl : Interpreter Action World → Interpreter Action World :=
  executeFused arithmetic 0x1b

def fusedShr : Interpreter Action World → Interpreter Action World :=
  executeFused arithmetic 0x1c

/-- Replace one entry of the table. -/
def insertInstruction (table : InstructionTable Action World) (opcode : U8)
    (instruction : Instruction Action World) : InstructionTable Action World :=
  Function.update table opcode instruction

/-- Replace the entries of the first opcodes of ranked pairs. -/
def installTop50OpcodeGadgets (table : InstructionTable Action World) :
    InstructionTable Action World :=
  let table := insertInstruction table 0x01 ⟨fusedAdd arithmetic, 3⟩
  let table := insertInstruction table 0x02 ⟨fusedMul arithmetic, 5⟩
  let table := insertInstruction table 0x03 ⟨fusedSub arithmetic, 3⟩
  let table := insertInstruction table 0x04 ⟨fusedDiv arithmetic, 5⟩
  let table := insertInstruction table 0x10 ⟨fusedLt arithmetic, 3⟩
  let table := insertInstruction table 0x11 ⟨fusedGt arithmetic, 3⟩
  let table := insertInstruction table 0x12 ⟨fusedSlt arithmetic, 3⟩
  let table := insertInstruction table 0x14 ⟨fusedEq arithmetic, 3⟩
  let table := insertInstruction table 0x15 ⟨fusedIszero arithmetic, 3⟩
  let table := insertInstruction table 0x16 ⟨fusedAnd arithmetic, 3⟩
  let table := insertInstruction table 0x17 ⟨fusedOr arithmetic, 3⟩
  let table := insertInstruction table 0x19 ⟨fusedNot arithmetic, 3⟩
  let table := insertInstruction table 0x1b ⟨fusedShl arithmetic, 3⟩
  let table := insertInstruction table 0x1c ⟨fusedShr arithmetic, 3⟩
  table

/-! ### The gadgets against the table -/

/-- The gadgets run the operations of the table. -/
theorem executePure_eq {opcode : U8} {operation : Operation} {gas : U64}
    (entry : osakaOperation opcode = some (operation, gas))
    (interpreter : Interpreter Action World) :
    executePure arithmetic opcode interpreter = interpreter.call arithmetic operation := by
  unfold osakaOperation at entry
  split at entry <;> cases entry <;> rfl

/-- The gadgets charge what the table charges. -/
theorem staticGas_eq {opcode : U8} {operation : Operation} {gas : U64}
    (entry : osakaOperation opcode = some (operation, gas)) : staticGas opcode = gas := by
  unfold osakaOperation at entry
  split at entry <;> cases entry <;> rfl

theorem setWidth_opcodePair (first second : U8) :
    (opcodePair first second).setWidth 8 = second := by
  unfold opcodePair
  ext position bound
  simp only [BitVec.getElem_setWidth, BitVec.getLsbD_or, BitVec.getLsbD_shiftLeft]
  simp [bound, show position < 16 by omega, BitVec.getLsbD_eq_getElem]

/-- The recognizer dispatches to the operation of the second opcode. -/
theorem secondOperation_spec {first second : U8} {operation : Operation}
    (recognized : secondOperation (opcodePair first second) = some operation) :
    ∃ gas, osakaOperation second = some (operation, gas) := by
  rw [← setWidth_opcodePair first second]
  generalize opcodePair first second = pair at recognized
  unfold secondOperation at recognized
  split at recognized <;> cases recognized <;> exact ⟨_, rfl⟩

/-- An entry that costs what the table's entry costs and runs it, or runs it and takes the next
step of the table when it has not stopped the interpreter. -/
structure FusesEntry (table : InstructionTable Action World) (opcode : U8)
    (instruction : Instruction Action World) : Prop where
  staticGas : instruction.staticGas = (table opcode).staticGas
  execute : ∀ interpreter,
    instruction.execute interpreter = (table opcode).execute interpreter ∨
      ((table opcode).execute interpreter).isEnd = false ∧
        instruction.execute interpreter = ((table opcode).execute interpreter).step table

theorem FusesEntry.refl (table : InstructionTable Action World) (opcode : U8) :
    FusesEntry table opcode (table opcode) :=
  ⟨rfl, fun _ => .inl rfl⟩

/-- Every entry of a table fuses the entry of the plain one. -/
def FusesTable (plain table : InstructionTable Action World) : Prop :=
  ∀ opcode, FusesEntry plain opcode (table opcode)

theorem FusesTable.insertInstruction {plain table : InstructionTable Action World}
    (fuses : FusesTable plain table) {opcode : U8} {instruction : Instruction Action World}
    (entry : FusesEntry plain opcode instruction) :
    FusesTable plain (insertInstruction table opcode instruction) := by
  intro other
  by_cases same : other = opcode
  · rw [same, Zkdeal.insertInstruction, Function.update_self]
    exact entry
  · rw [Zkdeal.insertInstruction, Function.update_of_ne same]
    exact fuses other

/-- A step of a table whose entries fuse is a step or two of the plain one. -/
theorem FusesTable.fuses {plain table : InstructionTable Action World}
    (fuses : FusesTable plain table) :
    Fuses Interpreter.isEnd (Interpreter.step plain) (Interpreter.step table) := by
  intro interpreter _
  have entry := fuses interpreter.opcode
  unfold Interpreter.step
  dsimp only
  rw [entry.staticGas]
  split
  case isTrue short => exact .inl rfl
  case isFalse enough => exact entry.execute _

variable (others : InstructionTable Action World)

/-- The entry of a gadget fuses the entry of its opcode. -/
theorem executeFused_fuses {opcode : U8} {operation : Operation} {gas : U64}
    (listed : osakaOperation opcode = some (operation, gas)) :
    FusesEntry (osakaTable arithmetic others) opcode ⟨executeFused arithmetic opcode, gas⟩ := by
  have entry : osakaTable arithmetic others opcode =
      ⟨Interpreter.call arithmetic operation, gas⟩ := by
    unfold osakaTable
    rw [listed]
  refine ⟨by rw [entry], fun interpreter => ?_⟩
  rw [entry]
  show executeFused arithmetic opcode interpreter = interpreter.call arithmetic operation ∨
    (interpreter.call arithmetic operation).isEnd = false ∧
      executeFused arithmetic opcode interpreter =
        (interpreter.call arithmetic operation).step (osakaTable arithmetic others)
  unfold executeFused
  dsimp only
  rw [executePure_eq arithmetic listed]
  cases going : (interpreter.call arithmetic operation).isEnd with
  | true => exact .inl (if_pos rfl)
  | false =>
    rw [if_neg Bool.false_ne_true]
    cases recognized : secondOperation (opcodePair opcode interpreter.opcode) with
    | none => exact .inl rfl
    | some second =>
      refine .inr ⟨rfl, ?_⟩
      obtain ⟨secondGas, secondListed⟩ := secondOperation_spec recognized
      have sameOpcode : (interpreter.call arithmetic operation).opcode = interpreter.opcode := rfl
      unfold Interpreter.step
      rw [sameOpcode]
      unfold osakaTable
      rw [secondListed, staticGas_eq secondListed]

/-- The table with the gadgets fuses the Osaka table. -/
theorem installTop50OpcodeGadgets_fuses :
    FusesTable (osakaTable arithmetic others)
      (installTop50OpcodeGadgets arithmetic (osakaTable arithmetic others)) := by
  have gadget (opcode : U8) {operation : Operation} {gas : U64}
      (listed : osakaOperation opcode = some (operation, gas)) :=
    executeFused_fuses arithmetic others listed
  have plain : FusesTable (osakaTable arithmetic others) (osakaTable arithmetic others) :=
    FusesEntry.refl _
  exact plain
    |>.insertInstruction (gadget 0x01 rfl)
    |>.insertInstruction (gadget 0x02 rfl)
    |>.insertInstruction (gadget 0x03 rfl)
    |>.insertInstruction (gadget 0x04 rfl)
    |>.insertInstruction (gadget 0x10 rfl)
    |>.insertInstruction (gadget 0x11 rfl)
    |>.insertInstruction (gadget 0x12 rfl)
    |>.insertInstruction (gadget 0x14 rfl)
    |>.insertInstruction (gadget 0x15 rfl)
    |>.insertInstruction (gadget 0x16 rfl)
    |>.insertInstruction (gadget 0x17 rfl)
    |>.insertInstruction (gadget 0x19 rfl)
    |>.insertInstruction (gadget 0x1b rfl)
    |>.insertInstruction (gadget 0x1c rfl)

end Arithmetic

/-- Gadgets do not change what a run does: it ends in the configuration the plain run ends in,
or in none, and passes through configurations of the plain run only. -/
theorem gadgets_preserve_runs {Action World : Type} (arithmetic : Arithmetic Action)
    (others : InstructionTable Action World) (start : Interpreter Action World) :
    StateTransition.eval (Interpreter.run
        (installTop50OpcodeGadgets arithmetic (osakaTable arithmetic others))) start =
      StateTransition.eval (Interpreter.run (osakaTable arithmetic others)) start ∧
    ∀ configuration, StateTransition.Reaches (Interpreter.run
        (installTop50OpcodeGadgets arithmetic (osakaTable arithmetic others))) start
          configuration →
      StateTransition.Reaches (Interpreter.run (osakaTable arithmetic others)) start
        configuration := by
  have fuses := (installTop50OpcodeGadgets_fuses arithmetic others).fuses
  exact ⟨fuses.eval_eq start, fun configuration reached => fuses.reaches reached⟩

/-- Subtraction and shifts to the left; everything else stops. -/
def sampleArithmetic : Arithmetic Unit
  | .sub, left :: right :: stack, gas => ⟨(left - right) :: stack, gas, none⟩
  | .shl, shift :: value :: stack, gas => ⟨(value <<< shift.toNat) :: stack, gas, none⟩
  | _, stack, gas => ⟨stack, gas, some (.action ())⟩

/-- The sample operations, and a `STOP` for every other opcode. -/
def sampleTable : InstructionTable Unit Unit :=
  osakaTable sampleArithmetic fun _ =>
    ⟨fun interpreter => { interpreter with halted := some (.action ()) }, 0⟩

-- A shift and a subtraction are one step of the gadgets, also when the gas ends in between.
example :
    [2, 5, 7].map (fun gas => Interpreter.step
        (installTop50OpcodeGadgets sampleArithmetic sampleTable)
        ⟨[0x1b, 0x03], 0, gas, [1, 4, 3], none, ()⟩) =
      [⟨[0x1b, 0x03], 1, 0, [1, 4, 3], some .outOfGas, ()⟩,
        ⟨[0x1b, 0x03], 2, 0, [8, 3], some .outOfGas, ()⟩,
        ⟨[0x1b, 0x03], 2, 1, [5], none, ()⟩] := by
  decide +kernel

end Zkdeal
