/-
The appointments of the relays as texts: `RelayGetRelayAppointment` prints them, `RelaySetRelayAppointment` reads them.

- `relayAppointment_roundTrip`: the records come back, all-zero ranges included.
-/
import DataConcentrator.Scene.Appointments

namespace DataConcentrator.Relay

open Protocol (Parameter ServerFrameStruct)
open Scene (SenceConfig AppointmentStore SentBack Restored)

def relaySetRelayAppointment (tmp : List UInt8) (st : AppointmentStore) (s : ServerFrameStruct) :
    Option AppointmentStore := Scene.setAppointments tmp st s

/-- `buf` is 256 bytes of the heap -/
def relayGetRelayAppointment (heap : ℕ → UInt16) (st : AppointmentStore) : Option (List Parameter) :=
  Scene.getAppointments 256 heap st

/-- **Appointments of relays.** What `RelayGetRelayAppointment` prints, sent back in a message, is stored as equal
records. -/
theorem relayAppointment_roundTrip {st : AppointmentStore} (hst : st.Valid) (heap : ℕ → UInt16) :
    ∃ answer, relayGetRelayAppointment heap st = some answer ∧
      ∀ s, SentBack answer s → ∀ (tmp : List UInt8) (st₀ : AppointmentStore),
        ∃ st', relaySetRelayAppointment tmp st₀ s = some st' ∧ st'.number = st.number ∧ Restored st st' st.number :=
  Scene.appointments_roundTrip hst (by decide) heap

/-! ## A summer -/

/-- working days from June to August, and any day without a restriction of the time -/
def summer : SenceConfig :=
  ⟨3, 1, 2, fun k => if k = 0 then ⟨6, 1, 20, 30, 8, 31, 4, 5, 0x1F⟩ else ⟨0, 0, 0, 0, 0, 0, 0, 0, 0x7F⟩⟩

theorem summer_valid : summer.Valid where
  pos := by decide
  le := by decide
  fields := by
    intro k hk b hb
    have hk' : k < 2 := hk
    interval_cases k
    · revert b
      exact List.all_iff_forall_prop.1 (by decide)
    · revert b
      exact List.all_iff_forall_prop.1 (by decide)

def summerStore : AppointmentStore := ⟨1, fun i => if i = 0 then some summer else none⟩

theorem summerStore_valid : summerStore.Valid where
  number := by decide
  records := by
    intro i hi c hc
    have hzero : i = 0 := Nat.lt_one_iff.1 hi
    rw [hzero] at hc
    rw [← Option.some.inj hc]
    exact summer_valid

/-- 3,1|06012030,08310405,1F|0,0,7F -/
example : Scene.sceneText 256 summer = some [0x33, 0x2C, 0x31, 0x7C, 0x30, 0x36, 0x30, 0x31, 0x32, 0x30, 0x33, 0x30, 0x2C,
    0x30, 0x38, 0x33, 0x31, 0x30, 0x34, 0x30, 0x35, 0x2C, 0x31, 0x46, 0x7C, 0x30, 0x2C, 0x30, 0x2C, 0x37, 0x46] := by
  decide +kernel

theorem relayAppointment_summer : ∃ answer, relayGetRelayAppointment (fun _ => 0) summerStore = some answer ∧
    ∀ s, SentBack answer s → ∀ (tmp : List UInt8) (st₀ : AppointmentStore),
      ∃ st', relaySetRelayAppointment tmp st₀ s = some st' ∧ st'.number = 1 ∧ Restored summerStore st' 1 :=
  relayAppointment_roundTrip summerStore_valid (fun _ => 0)

end DataConcentrator.Relay
