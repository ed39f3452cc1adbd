import Hotplug.Named

/-!
# Slots of handles

All handles of one identifier share a slot, which counts them and refers to the
object behind them without keeping it alive. A slot stays as long as it is
counted or its object lives.
-/

namespace Hotplug

/-- What the handles of one identifier share. -/
structure HandleSlot (ρ : Type) where
  refs : Nat
  /-- The object behind the handles, alive or not. -/
  object : Option ρ
  deriving DecidableEq, Repr

abbrev HandleTable (ρ : Type) : Type := Named (HandleSlot ρ)

namespace HandleSlot

variable {ρ : Type}

def living (alive : ρ → Bool) (slot : HandleSlot ρ) : Option ρ :=
  slot.object.filter alive

def isValid (alive : ρ → Bool) (slot : HandleSlot ρ) : Bool :=
  (slot.living alive).isSome

end HandleSlot

namespace HandleTable

variable {ρ : Type}

/-- Count one more handle of a slot, if there is one. -/
def acquire? (udi : String) (slots : HandleTable ρ) : Option (HandleTable ρ) :=
  match slots[udi]? with
  | some slot => some (slots.insert udi { slot with refs := slot.refs + 1 })
  | none => none

/-- Count one more handle, and make the slot if it is missing. A slot without a
living object takes the object that is given. -/
def acquireWith (alive : ρ → Bool) (udi : String) (object : Option ρ)
    (slots : HandleTable ρ) :
    HandleTable ρ :=
  let slot := slots[udi]?.getD ⟨0, none⟩
  slots.insert udi
    ⟨slot.refs + 1, if slot.isValid alive then slot.object else object⟩

/-- Count one handle less. A slot that nothing refers to any more, and whose
object is gone, is removed. -/
def release (alive : ρ → Bool) (udi : String) (slots : HandleTable ρ) :
    HandleTable ρ :=
  match slots[udi]? with
  | none => slots
  | some slot =>
      if slot.refs ≤ 1 ∧ slot.isValid alive = false then slots.erase udi
      else slots.insert udi { slot with refs := slot.refs - 1 }

def object? (alive : ρ → Bool) (udi : String) (slots : HandleTable ρ) :
    Option ρ :=
  slots[udi]?.bind fun slot => slot.living alive

def sharers (udi : String) (slots : HandleTable ρ) : Nat :=
  (slots[udi]?.map (·.refs)).getD 0

/-- Whether there is a slot whose object is gone. -/
def isOrphaned (alive : ρ → Bool) (udi : String) (slots : HandleTable ρ) :
    Bool :=
  slots[udi]?.any fun slot => !slot.isValid alive

def rebind (udi : String) (object : Option ρ) (slots : HandleTable ρ) :
    HandleTable ρ :=
  slots.modify udi fun slot => { slot with object := object }

/-- Part a slot from its object. Without handles it is removed. -/
def detach (udi : String) (slots : HandleTable ρ) : HandleTable ρ :=
  match slots[udi]? with
  | none => slots
  | some slot =>
      if slot.refs = 0 then slots.erase udi
        else slots.insert udi ⟨slot.refs, none⟩

def detachAll (slots : HandleTable ρ) : HandleTable ρ :=
  slots.filterMap fun _ slot => if slot.refs = 0 then none else
    some ⟨slot.refs, none⟩

end HandleTable

end Hotplug
