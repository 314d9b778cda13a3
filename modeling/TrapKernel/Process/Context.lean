import TrapKernel.Word

/-!
# Saved contexts

The registers that a process leaves on its stack when it traps. They are stored as fifteen words:
the segment registers, the general ones, and the frame to which the trap returns.
-/

namespace TrapKernel

/-- The registers of a process that is not running. -/
@[ext] structure Context where
  gs : UInt32
  fs : UInt32
  es : UInt32
  ds : UInt32
  edi : UInt32
  esi : UInt32
  ebp : UInt32
  esp : UInt32
  ebx : UInt32
  edx : UInt32
  ecx : UInt32
  eax : UInt32
  eip : UInt32
  cs : UInt32
  eflags : UInt32
  deriving DecidableEq, Repr

namespace Context

/-- Bytes of a stored context. -/
def size : Nat := 60

/-- Every register is zero. -/
def zero : Context := ⟨0, 0, 0, 0, 0, 0, 0, 0, 0, 0, 0, 0, 0, 0, 0⟩

/-- The selector of the kernel's data segment. -/
def dataSegment : UInt32 := 0x10

/-- The selector of the kernel's code segment. -/
def codeSegment : UInt32 := 0x08

/-- The flags of a process that starts: interrupts are enabled. -/
def initialFlags : UInt32 := 0x202

/-- The context from which a process starts at `entry`, with the stack that begins at `stackBase`
and this context stored at `stackTop`. -/
def initial (entry stackBase stackTop : UInt32) : Context :=
  { zero with
    gs := dataSegment
    fs := dataSegment
    es := dataSegment
    ds := dataSegment
    ebp := stackBase
    esp := stackTop
    eip := entry
    cs := codeSegment
    eflags := initialFlags }

/-- The registers in the order in which they are stored. -/
def words (c : Context) : List UInt32 :=
  [c.gs, c.fs, c.es, c.ds, c.edi, c.esi, c.ebp, c.esp, c.ebx, c.edx, c.ecx, c.eax, c.eip, c.cs,
    c.eflags]

/-- The context with the given words; missing ones are zero. -/
def ofWords (ws : List UInt32) : Context where
  gs := ws.getD 0 0
  fs := ws.getD 1 0
  es := ws.getD 2 0
  ds := ws.getD 3 0
  edi := ws.getD 4 0
  esi := ws.getD 5 0
  ebp := ws.getD 6 0
  esp := ws.getD 7 0
  ebx := ws.getD 8 0
  edx := ws.getD 9 0
  ecx := ws.getD 10 0
  eax := ws.getD 11 0
  eip := ws.getD 12 0
  cs := ws.getD 13 0
  eflags := ws.getD 14 0

/-- Store a context over bytes. Words that do not fit are left out, bytes beyond stay as they
are. -/
def writeTo (c : Context) (bytes : List UInt8) : List UInt8 := Word.overwrite c.words bytes

/-- The context that bytes hold. Words that are not there are zero. -/
def readFrom (bytes : List UInt8) : Context := ofWords (Word.readAll bytes)

@[simp] theorem ofWords_words (c : Context) : ofWords c.words = c := rfl

@[simp] theorem length_writeTo (c : Context) (bytes : List UInt8) :
    (c.writeTo bytes).length = bytes.length := Word.length_overwrite ..

end Context

end TrapKernel
