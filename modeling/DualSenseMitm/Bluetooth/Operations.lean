import DualSenseMitm.Bluetooth.L2capSignalling
import DualSenseMitm.Lib.Machine

/-!
# What the relay's functions are made of

Every function of the relay comes down to a few elementary operations: writing one group of a
handler's members, sending a command or a frame, emitting, parking a coroutine.  `Op` names them and
`Relay.perform` carries one out, so that what a function may do is said once, as
`Performs ok r (f r)`: the state behind it is reached by operations that `ok` permits.  A property of
runs is then checked against the operations and not against every function again.

* `h_onLinks` and its companions — an operation on one group leaves every other one alone.
* `out_pumpCommands`, `h_sendCmd`, `h_l2capSendFrame` — what the three that leave the process write.
-/

set_option autoImplicit false

namespace DualSenseMitm

open Machine

/-- One elementary operation. -/
inductive Op
  | links (s : ConnectionSide) (f : Links → Links)
  | pairing (s : ConnectionSide) (f : Pairing → Pairing)
  | paging (s : ConnectionSide) (f : Paging → Paging)
  | channels (s : ConnectionSide) (f : Channels → Channels)
  | streams (s : ConnectionSide) (f : Streams → Streams)
  | held (s : ConnectionSide) (f : HeldFrame → HeldFrame)
  | gaps (s : ConnectionSide) (f : SendGaps → SendGaps)
  | acl (s : ConnectionSide) (f : AclFlowControl → AclFlowControl)
  | radio (s : ConnectionSide) (f : Radio → Radio)
  | phase (s : ConnectionSide) (p : Phase)
  | usb (f : UsbHandler → UsbHandler)
  | queue (s : ConnectionSide) (f : HciCommandQueue → HciCommandQueue)
  | pump (s : ConnectionSide)
  | cmd (s : ConnectionSide) (ogf ocf : UInt16) (param : List UInt8) (what : String)
  | frame (s : ConnectionSide) (cid : UInt16) (pre data : List UInt8)
  | emit (o : Output)
  | spawn (t : Task)
  | unpark (k : ℕ)
  | advance (n : ℕ)

namespace Relay

/-- Carry out one operation. -/
def perform (r : Relay) : Op → Relay
  | .links s f => r.onLinks s f
  | .pairing s f => r.onPairing s f
  | .paging s f => r.onPaging s f
  | .channels s f => r.onChannels s f
  | .streams s f => r.onStreams s f
  | .held s f => r.onHeld s f
  | .gaps s f => r.onGaps s f
  | .acl s f => r.onAcl s f
  | .radio s f => r.onRadio s f
  | .phase s p => r.setPhase s p
  | .usb f => r.onUsb f
  | .queue s f => r.onCmdQueue s f
  | .pump s => r.pumpCommands s
  | .cmd s ogf ocf param what => r.sendCmd s ogf ocf param what
  | .frame s cid pre data => r.l2capSendFrame s cid pre data
  | .emit o => r.emit o
  | .spawn t => r.spawn t
  | .unpark k => r.unpark k
  | .advance n => r.advance n

/-- The state behind is reached by permitted operations. -/
abbrev Performs (ok : Relay → Op → Prop) (r r' : Relay) : Prop := Reaches perform ok r r'

theorem Performs.single {ok : Relay → Op → Prop} {r : Relay} (op : Op) (h : ok r op) :
    Performs ok r (r.perform op) := Reaches.single op h

theorem Performs.tail {ok : Relay → Op → Prop} {r r' : Relay} (h : Performs ok r r') (op : Op)
    (hop : ok r' op) : Performs ok r (r'.perform op) := Reaches.tail h op hop

/-! ## Writing one group leaves the others alone -/

section groups

variable (r : Relay) (s t : ConnectionSide)

@[simp] theorem h_onLinks (f : Links → Links) : (r.onLinks s f).h t
    = { r.h t with links := if t = s then f (r.h t).links else (r.h t).links } := by
  by_cases ht : t = s
  · subst ht; simp [onLinks, onHandler]
  · simp [onLinks, onHandler, ht]

@[simp] theorem h_onPairing (f : Pairing → Pairing) : (r.onPairing s f).h t
    = { r.h t with pairing := if t = s then f (r.h t).pairing else (r.h t).pairing } := by
  by_cases ht : t = s
  · subst ht; simp [onPairing, onHandler]
  · simp [onPairing, onHandler, ht]

@[simp] theorem h_onPaging (f : Paging → Paging) : (r.onPaging s f).h t
    = { r.h t with paging := if t = s then f (r.h t).paging else (r.h t).paging } := by
  by_cases ht : t = s
  · subst ht; simp [onPaging, onHandler]
  · simp [onPaging, onHandler, ht]

@[simp] theorem h_onChannels (f : Channels → Channels) : (r.onChannels s f).h t
    = { r.h t with channels := if t = s then f (r.h t).channels else (r.h t).channels } := by
  by_cases ht : t = s
  · subst ht; simp [onChannels, onHandler]
  · simp [onChannels, onHandler, ht]

@[simp] theorem h_onStreams (f : Streams → Streams) : (r.onStreams s f).h t
    = { r.h t with streams := if t = s then f (r.h t).streams else (r.h t).streams } := by
  by_cases ht : t = s
  · subst ht; simp [onStreams, onHandler]
  · simp [onStreams, onHandler, ht]

@[simp] theorem h_onHeld (f : HeldFrame → HeldFrame) : (r.onHeld s f).h t
    = { r.h t with held := if t = s then f (r.h t).held else (r.h t).held } := by
  by_cases ht : t = s
  · subst ht; simp [onHeld, onHandler]
  · simp [onHeld, onHandler, ht]

@[simp] theorem h_onGaps (f : SendGaps → SendGaps) : (r.onGaps s f).h t
    = { r.h t with gaps := if t = s then f (r.h t).gaps else (r.h t).gaps } := by
  by_cases ht : t = s
  · subst ht; simp [onGaps, onHandler]
  · simp [onGaps, onHandler, ht]

@[simp] theorem h_onAcl (f : AclFlowControl → AclFlowControl) : (r.onAcl s f).h t
    = { r.h t with acl := if t = s then f (r.h t).acl else (r.h t).acl } := by
  by_cases ht : t = s
  · subst ht; simp [onAcl, onHandler]
  · simp [onAcl, onHandler, ht]

@[simp] theorem h_onRadio (f : Radio → Radio) : (r.onRadio s f).h t
    = { r.h t with radio := if t = s then f (r.h t).radio else (r.h t).radio } := by
  by_cases ht : t = s
  · subst ht; simp [onRadio, onHandler]
  · simp [onRadio, onHandler, ht]

@[simp] theorem h_onCmdQueue (f : HciCommandQueue → HciCommandQueue) : (r.onCmdQueue s f).h t
    = { r.h t with cmdQueue := if t = s then f (r.h t).cmdQueue else (r.h t).cmdQueue } := by
  by_cases ht : t = s
  · subst ht; simp [onCmdQueue, onHandler]
  · simp [onCmdQueue, onHandler, ht]

@[simp] theorem h_setPhase (p : Phase) : (r.setPhase s p).h t
    = { r.h t with phase := if t = s then p else (r.h t).phase } := by
  by_cases ht : t = s
  · subst ht; simp [setPhase, onHandler]
  · simp [setPhase, onHandler, ht]

@[simp] theorem h_emit (o : Output) : (r.emit o).h = r.h := rfl
@[simp] theorem h_spawn (k : Task) : (r.spawn k).h = r.h := rfl
@[simp] theorem h_unpark (k : ℕ) : (r.unpark k).h = r.h := rfl
@[simp] theorem h_advance (n : ℕ) : (r.advance n).h = r.h := rfl
@[simp] theorem h_onUsb (f : UsbHandler → UsbHandler) : (r.onUsb f).h = r.h := rfl

@[simp] theorem out_onLinks (f : Links → Links) : (r.onLinks s f).out = r.out := rfl
@[simp] theorem out_onPairing (f : Pairing → Pairing) : (r.onPairing s f).out = r.out := rfl
@[simp] theorem out_onPaging (f : Paging → Paging) : (r.onPaging s f).out = r.out := rfl
@[simp] theorem out_onChannels (f : Channels → Channels) : (r.onChannels s f).out = r.out := rfl
@[simp] theorem out_onStreams (f : Streams → Streams) : (r.onStreams s f).out = r.out := rfl
@[simp] theorem out_onHeld (f : HeldFrame → HeldFrame) : (r.onHeld s f).out = r.out := rfl
@[simp] theorem out_onGaps (f : SendGaps → SendGaps) : (r.onGaps s f).out = r.out := rfl
@[simp] theorem out_onAcl (f : AclFlowControl → AclFlowControl) : (r.onAcl s f).out = r.out := rfl
@[simp] theorem out_onRadio (f : Radio → Radio) : (r.onRadio s f).out = r.out := rfl
@[simp] theorem out_onCmdQueue (f : HciCommandQueue → HciCommandQueue) :
    (r.onCmdQueue s f).out = r.out := rfl
@[simp] theorem out_setPhase (p : Phase) : (r.setPhase s p).out = r.out := rfl
@[simp] theorem out_emit (o : Output) : (r.emit o).out = r.out ++ [o] := rfl
@[simp] theorem out_spawn (k : Task) : (r.spawn k).out = r.out := rfl
@[simp] theorem out_unpark (k : ℕ) : (r.unpark k).out = r.out := rfl
@[simp] theorem out_advance (n : ℕ) : (r.advance n).out = r.out := rfl
@[simp] theorem out_onUsb (f : UsbHandler → UsbHandler) : (r.onUsb f).out = r.out := rfl

end groups

/-! ## The three that leave the process -/

section sending

variable (r : Relay) (s t : ConnectionSide)

/-- What the loop of `pump_commands` does to a queue. -/
def pumped (q : HciCommandQueue) : List (Command × Bool) × HciCommandQueue :=
  q.pump (fun k ↦ r.env.cmdWrite (r.tick + k)) fun k ↦ r.env.clock (r.tick + k)

@[simp] theorem h_pumpCommands : (r.pumpCommands s).h t
    = { r.h t with
        cmdQueue := if t = s then (r.pumped (r.h s).cmdQueue).2 else (r.h t).cmdQueue } := by
  by_cases ht : t = s
  · subst ht; simp [pumpCommands, pumped]
  · simp [pumpCommands, ht]

theorem out_pumpCommands : (r.pumpCommands s).out
    = r.out ++ (r.pumped (r.h s).cmdQueue).1.map (pumpOutput s) := rfl

/-- The command `send_cmd` queues. -/
def command (ogf ocf : UInt16) (param : List UInt8) (what : String) : Command :=
  { ogf := ogf, ocf := ocf, param := param, what := what
    quiet := (r.h s).paging.suppressCmdErrors }

@[simp] theorem h_sendCmd (ogf ocf : UInt16) (param : List UInt8) (what : String) :
    (r.sendCmd s ogf ocf param what).h t
      = { r.h t with
          cmdQueue :=
            if t = s then
              (r.pumped ((r.h s).cmdQueue.push (r.command s ogf ocf param what))).2
            else (r.h t).cmdQueue } := by
  by_cases ht : t = s
  · subst ht; simp [sendCmd, command, pumped, onCmdQueue, onHandler, emit]
  · simp [sendCmd, ht]

theorem out_sendCmd (ogf ocf : UInt16) (param : List UInt8) (what : String) :
    (r.sendCmd s ogf ocf param what).out
      = r.out ++ .cmdIssued s (r.command s ogf ocf param what)
          :: (r.pumped ((r.h s).cmdQueue.push (r.command s ogf ocf param what))).1.map
            (pumpOutput s) := by
  simp [sendCmd, command, out_pumpCommands, pumped, onCmdQueue, onHandler, emit]

/-- The accounting behind a frame with this payload: one more packet, if it fits and is
written. -/
def aclAfterFrame (payload : List UInt8) : AclFlowControl :=
  if tooLarge payload then (r.h s).acl
  else if r.env.aclWrite r.tick then (r.h s).acl.onSent (r.h s).links.connectionHandle
  else (r.h s).acl

@[simp] theorem h_l2capSendFrame (cid : UInt16) (pre data : List UInt8) :
    (r.l2capSendFrame s cid pre data).h t
      = { r.h t with
          acl := if t = s then r.aclAfterFrame s (pre ++ data) else (r.h t).acl } := by
  by_cases hlen : tooLarge (pre ++ data) = true
  · by_cases ht : t = s
    · subst ht; simp [l2capSendFrame, aclAfterFrame, hlen]
    · simp [l2capSendFrame, hlen, ht]
  · by_cases hok : r.env.aclWrite r.tick = true
    · by_cases ht : t = s
      · subst ht; simp [l2capSendFrame, aclAfterFrame, hlen, hok]
      · simp [l2capSendFrame, hlen, hok, ht]
    · by_cases ht : t = s
      · subst ht; simp [l2capSendFrame, aclAfterFrame, hlen, hok]
      · simp [l2capSendFrame, hlen, hok, ht]

@[simp] theorem usb_l2capSendFrame (cid : UInt16) (pre data : List UInt8) :
    (r.l2capSendFrame s cid pre data).usb = r.usb := by
  unfold l2capSendFrame
  dsimp only
  split
  · rfl
  · split <;> rfl

@[simp] theorem tasks_l2capSendFrame (cid : UInt16) (pre data : List UInt8) :
    (r.l2capSendFrame s cid pre data).tasks = r.tasks := by
  unfold l2capSendFrame
  dsimp only
  split
  · rfl
  · split <;> rfl

theorem out_l2capSendFrame (cid : UInt16) (pre data : List UInt8) :
    (r.l2capSendFrame s cid pre data).out
      = r.out ++ if tooLarge (pre ++ data) then []
          else [.acl s (aclFrame (r.h s).links.connectionHandle cid (pre ++ data))
            (r.env.aclWrite r.tick) (r.h s).links.openHandles] := by
  by_cases hlen : tooLarge (pre ++ data) = true
  · simp [l2capSendFrame, hlen]
  · by_cases hok : r.env.aclWrite r.tick = true
    · simp [l2capSendFrame, hlen, hok]
    · simp [l2capSendFrame, hlen, hok]

end sending

/-! ## Who else an operation could touch -/

/-- No operation changes whether the handlers are linked. -/
@[simp] theorem linked_perform (r : Relay) (op : Op) : (r.perform op).linked = r.linked := by
  cases op with
  | frame s cid pre data =>
    simp only [perform, l2capSendFrame]
    split
    · rfl
    · split <;> rfl
  | _ => rfl

theorem Performs.linked {ok : Relay → Op → Prop} {r r' : Relay} (h : Performs ok r r') :
    r'.linked = r.linked :=
  h.invariant (fun a ↦ a.linked = r.linked) rfl fun a op ha _ ↦ by rw [linked_perform, ha]

/-- Nor does any change what the surroundings answer. -/
@[simp] theorem env_perform (r : Relay) (op : Op) : (r.perform op).env = r.env := by
  cases op with
  | frame s cid pre data =>
    simp only [perform, l2capSendFrame]
    split
    · rfl
    · split <;> rfl
  | _ => rfl

theorem Performs.env {ok : Relay → Op → Prop} {r r' : Relay} (h : Performs ok r r') : r'.env = r.env :=
  h.invariant (fun a ↦ a.env = r.env) rfl fun a op ha _ ↦ by rw [env_perform, ha]

end Relay

end DualSenseMitm
