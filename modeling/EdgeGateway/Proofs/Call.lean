import EdgeGateway.Board

/-!
# EdgeGateway.Proofs.Call

What calls can be answered with.

* `Call.Brings`            : an answer the call can get, a failure only where the call may fail.
* `Board.brings_of_finish` : the simulated board keeps to it.
-/

namespace EdgeGateway

namespace Call

/-- Questions, pauses and reports are always answered; a transport is always torn down. -/
def mayFail : Call → Bool
  | .linkTearDown | .status .. | .sleep _ | .askConnected _ | .askServers .. | .askAdvertising
  | .readKey | .print _ => false
  | _ => true

/-- What a call brings that does not fail. A modem may come up without an address. -/
def Succeeds : Call → Answer → Prop
  | .linkConnect, a | .wifiConnect .., a => ∃ ip, a = .address (some ip)
  | .modem .mode, a => ∃ m, a = .mode m
  | .modem (.dial ..), a => ∃ ip, a = .address ip
  | .askConnected _, a | .askAdvertising, a => ∃ b, a = .flag b
  | .askServers .., a => ∃ dns, a = .servers dns
  | .openPort _, a => ∃ h, a = .handle h
  | .exchange .., a => ∃ bytes, a = .data bytes
  | .readKey, a => ∃ key, a = .key key
  | _, a => a = .done

def Brings (c : Call) (a : Answer) : Prop :=
  c.Succeeds a ∨ c.mayFail = true ∧ ∃ f, a = .failed f

end Call

theorem Board.brings_of_endModemCall (b : Board) (c : ModemCall) :
    (Call.modem c).Brings (b.endModemCall c).answer := by
  cases c with
  | mode =>
    unfold Board.endModemCall
    dsimp only
    split
    · exact .inl ⟨_, rfl⟩
    · exact .inr ⟨rfl, _, rfl⟩
  | dial params timeout =>
    unfold Board.endModemCall
    dsimp only
    split
    · exact .inr ⟨rfl, _, rfl⟩
    · split
      · exact .inl ⟨_, rfl⟩
      · exact .inl ⟨_, rfl⟩
  | change mode timeout | hangUp timeout =>
    unfold Board.endModemCall
    dsimp only
    split
    · exact .inl rfl
    · exact .inr ⟨rfl, _, rfl⟩

theorem Board.brings_of_finish (b : Board) {c : Call} (hlink : c ≠ .linkConnect)
    (hkey : c ≠ .readKey) : c.Brings (b.finish c).answer := by
  cases c with
  | linkConnect => exact absurd rfl hlink
  | readKey => exact absurd rfl hkey
  | modem c => exact b.brings_of_endModemCall c
  | openPort port =>
    unfold Board.finish
    dsimp only
    split
    · exact .inr ⟨rfl, _, rfl⟩
    · exact .inl ⟨_, rfl⟩
  | closePort handle =>
    unfold Board.finish
    dsimp only
    split
    · exact .inl rfl
    · exact .inr ⟨rfl, _, rfl⟩
  | exchange handle payload =>
    unfold Board.finish
    dsimp only
    split
    · exact .inl ⟨_, rfl⟩
    · exact .inr ⟨rfl, _, rfl⟩
  | wifiConnect | askConnected | askAdvertising => exact .inl ⟨_, rfl⟩
  | askServers m count => cases m <;> exact .inl ⟨_, rfl⟩
  | _ => exact .inl rfl

end EdgeGateway
