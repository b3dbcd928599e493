import ChannelAccess.Flag

/-!
# Permission masks

A mask is a set of permissions, one bit each, in a 64-bit word. Bits without a name are reserved:
they are kept by every operation except `complement`, which stays within the named bits. All
operations are determined by `testBit`, the view that the laws of this module are stated in.
-/

namespace ChannelAccess

set_option autoImplicit false

/-- A set of permissions, held as the bits of a 64-bit word. -/
@[ext]
structure Mask where
  bits : BitVec 64
deriving DecidableEq

namespace Mask

def testBit (mask : Mask) (position : Nat) : Bool :=
  mask.bits.getLsbD position

/-- The mask of a number, whose bits beyond the word are dropped. -/
def ofNat (value : Nat) : Mask :=
  ⟨BitVec.ofNat 64 value⟩

def toNat (mask : Mask) : Nat :=
  mask.bits.toNat

def empty : Mask :=
  ⟨0#64⟩

instance : EmptyCollection Mask := ⟨empty⟩

instance : Inhabited Mask := ⟨empty⟩

instance : Union Mask := ⟨fun left right => ⟨left.bits ||| right.bits⟩⟩

instance : Inter Mask := ⟨fun left right => ⟨left.bits &&& right.bits⟩⟩

instance : SDiff Mask := ⟨fun left right => ⟨left.bits &&& ~~~right.bits⟩⟩

def symmDiff (left right : Mask) : Mask :=
  ⟨left.bits ^^^ right.bits⟩

def ofFlag (flag : Flag) : Mask :=
  ⟨BitVec.twoPow 64 flag.index⟩

def unionAll (masks : List Mask) : Mask :=
  masks.foldl (· ∪ ·) ∅

def ofFlags (flags : List Flag) : Mask :=
  unionAll (flags.map ofFlag)

def all : Mask :=
  ofFlags Flag.all

/-- The permissions that `@everyone` has on a new server. -/
def everyoneDefault : Mask :=
  ofFlags [.viewChannels, .readHistory, .sendMessages, .embedLinks, .attachFiles, .addReactions,
    .voiceConnect, .voiceSpeak, .createInvite]

def isEmpty (mask : Mask) : Bool :=
  mask == ∅

def has (mask wanted : Mask) : Bool :=
  mask ∩ wanted == wanted

/-- Whether a mask has at least one permission of another. -/
def grants (mask wanted : Mask) : Bool :=
  !(mask ∩ wanted).isEmpty

def isAll (mask : Mask) : Bool :=
  mask.has all

/-- The named permissions that a mask lacks. Reserved bits are never set in it. -/
def complement (mask : Mask) : Mask :=
  all \ mask

def reserved (mask : Mask) : Mask :=
  mask \ all

/-- A mask after one layer of overrides: what the layer denies is taken away, then what it allows is
added, so that a bit both denied and allowed ends up set. -/
def applyLayer (mask allow deny : Mask) : Mask :=
  (mask \ deny) ∪ allow

def flags (mask : Mask) : List Flag :=
  Flag.all.filter fun flag => mask.testBit flag.index

/-- A mask in pieces: one for each of its flags, then one with its reserved bits if there are any.
-/
def pieces (mask : Mask) : List Mask :=
  mask.flags.map ofFlag ++ (if mask.reserved.isEmpty then [] else [mask.reserved])

def ofNamed? (mask : Mask) : Option Mask :=
  if mask.reserved.isEmpty then some mask else none

def truncate (mask : Mask) : Mask :=
  mask ∩ all

def ofSigned (value : Int) : Mask :=
  ⟨BitVec.ofInt 64 value⟩

/-- The signed number that keeps a mask in a 64-bit column: the top bit is its sign. -/
def toSigned (mask : Mask) : Int :=
  mask.bits.toInt

theorem ext_test_bit {left right : Mask}
    (same : ∀ position, left.testBit position = right.testBit position) : left = right := by
  apply Mask.ext
  exact BitVec.eq_of_getLsbD_eq fun position _ => same position

@[simp]
theorem test_bit_empty (position : Nat) : (∅ : Mask).testBit position = false := by
  change (0#64).getLsbD position = false
  simp

@[simp]
theorem test_bit_union (left right : Mask) (position : Nat) :
    (left ∪ right).testBit position = (left.testBit position || right.testBit position) := by
  change (left.bits ||| right.bits).getLsbD position = _
  simp [testBit]

@[simp]
theorem test_bit_inter (left right : Mask) (position : Nat) :
    (left ∩ right).testBit position = (left.testBit position && right.testBit position) := by
  change (left.bits &&& right.bits).getLsbD position = _
  simp [testBit]

@[simp]
theorem test_bit_sdiff (left right : Mask) (position : Nat) :
    (left \ right).testBit position = (left.testBit position && !right.testBit position) := by
  change (left.bits &&& ~~~right.bits).getLsbD position = _
  by_cases inside : position < 64
  · simp [testBit, inside]
  · simp [testBit, BitVec.getLsbD_of_ge left.bits position (by omega)]

@[simp]
theorem test_bit_apply_layer (mask allow deny : Mask) (position : Nat) :
    (mask.applyLayer allow deny).testBit position =
      ((mask.testBit position && !deny.testBit position) || allow.testBit position) := by
  simp [applyLayer]

@[simp]
theorem of_signed_to_signed (mask : Mask) : ofSigned mask.toSigned = mask := by
  simp [ofSigned, toSigned]

end Mask

end ChannelAccess
