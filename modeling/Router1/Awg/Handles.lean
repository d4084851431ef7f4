import Mathlib.Logic.Function.Basic

/-!
# The devices of the native library

The native library keeps the devices that run under handles, which are the smallest numbers that are free. What a
device is does not matter here.
-/

namespace Awg

variable {Device : Type}

abbrev TunnelHandles (Device : Type) := Int → Option Device

def maxInt32 : Nat := 2147483647

/-- The search for an empty handle; there is none if it comes to `maxInt32`. -/
def emptyHandle (handles : TunnelHandles Device) : Nat → Nat → Nat
  | 0, i => i
  | left + 1, i => if (handles i).isSome then emptyHandle handles left (i + 1) else i

/-- `awgTurnOn`, for a device that starts or does not start. -/
def awgTurnOn (handles : TunnelHandles Device) (device : Device) (starts : Bool) : Int × TunnelHandles Device :=
  if starts then
    let i := emptyHandle handles maxInt32 0
    if i = maxInt32 then (-1, handles) else (i, Function.update handles i (some device))
  else (-1, handles)

def awgTurnOff (handles : TunnelHandles Device) (handle : Int) : TunnelHandles Device :=
  Function.update handles handle none

section Handles

variable {handles : TunnelHandles Device} {device : Device}

theorem emptyHandle_spec (left i : Nat) :
    handles (emptyHandle handles left i) = none ∨ emptyHandle handles left i = i + left := by
  induction left generalizing i with
  | zero => exact .inr rfl
  | succ left ih =>
      rw [emptyHandle]
      split
      next => exact (ih (i + 1)).imp_right fun hend => hend.trans (Nat.succ_add_eq_add_succ i left)
      next hfree =>
        left
        rwa [Option.not_isSome_iff_eq_none] at hfree

/-- The library answers with `-1`, or with a new handle under which it keeps the device from then on. -/
theorem awgTurnOn_spec (handles : TunnelHandles Device) (device : Device) (starts : Bool) :
    awgTurnOn handles device starts = (-1, handles) ∨
      ∃ handle : Nat, handles handle = none ∧
        awgTurnOn handles device starts = ((handle : Int), Function.update handles handle (some device)) := by
  rw [awgTurnOn]
  split
  next =>
    dsimp only
    split
    next => exact .inl rfl
    next hfound =>
      refine .inr ⟨_, ?_, rfl⟩
      exact (emptyHandle_spec maxInt32 0).resolve_right fun hend => hfound (hend.trans (Nat.zero_add maxInt32))
  next => exact .inl rfl

theorem awgTurnOn_empty (device : Device) (starts : Bool) :
    awgTurnOn (fun _ => none) device starts =
      if starts then (0, Function.update (fun _ => none) 0 (some device)) else (-1, fun _ => none) := by
  have hfirst : emptyHandle (fun _ => none : TunnelHandles Device) maxInt32 0 = 0 := rfl
  rw [awgTurnOn]
  split
  next =>
    rw [hfirst]
    rfl
  next => rfl

theorem awgTurnOff_only (handle : Int) (device : Device) :
    awgTurnOff (Function.update (fun _ => none) handle (some device)) handle = fun _ => none := by
  rw [awgTurnOff, Function.update_idem]
  exact Function.update_eq_self handle _

end Handles

end Awg
