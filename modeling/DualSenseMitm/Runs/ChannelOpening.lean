import DualSenseMitm.Moves

/-!
# Channels being opened

Either end can open a channel, and the relay asks for one at five places, none of which notes that it
has asked.  So a local CID can be asked for twice, or opened by the peer over a channel that is open.

* `Openings` — for each local CID of the current link, what has been asked for and what is open.
* `Relay.calls` and `Relay.accepts` — the channel a step asks for, and the one it lets the peer open.
* `one_channel_each` — a local CID never has more than one, as long as each step opens one that is
  free.
-/

set_option autoImplicit false

namespace DualSenseMitm

open Bytes Machine Relay

/-! ## What is open or being opened -/

/-- The channel a frame of one side asks the peer to open. -/
def Output.connRequest? (s : ConnectionSide) : Output → Option Channel
  | .acl t frame true _ =>
    if t = s ∧ le16 frame 7 = L2CAP_CID_SIGNALLING ∧ byteAt frame 9 = L2CAP_CONN_REQ then
      Channel.byScid (le16 frame 15)
    else none
  | _ => none

namespace Relay

/-- The channels a step asks the peer of one side to open. -/
def connRequests (r : Relay) (s : ConnectionSide) (i : Input) : List Channel :=
  ((r.step i).out.drop r.out.length).filterMap (Output.connRequest? s)

/-- The signalling command a cause completes. -/
def commandOf (r : Relay) : Cause → Option (ConnectionSide × L2capCommand)
  | .acl s p =>
    match (r.completedPdu s p).map PduContents.decode with
    | some (.command p) => some (s, .decode p)
    | _ => none
  | _ => none

/-- The channel a command asks for next, when we are the caller. -/
def chained (r : Relay) (s : ConnectionSide) : L2capCommand → Option Channel
  | .confRequest req =>
    if (r.h s).links.incomingLink then none
    else
      match s, Channel.byScid req.dcid with
      | .toDualsense, some .sdpClient => some .hidControl
      | .toDualsense, some .hidControl => some .hidInterrupt
      | _, _ => none
  | _ => none

/-- The channel a cause makes the relay ask for. -/
def calls (r : Relay) : Cause → Option (ConnectionSide × Channel)
  | .event s (.authComplete e) =>
    if s = .toDualsense ∧ e.status = HCI_SUCCESS then some (s, .sdpClient) else none
  | .event s (.encryptChange e) =>
    if s = .toDualsense ∧ e.status = HCI_SUCCESS ∧ e.encrypt ≠ 0 ∧ r.dcid s .sdpClient = 0 then
      some (s, .sdpClient)
    else none
  | .interruptFallback s link =>
    if (r.h s).links.connectionHandle = link ∧ r.dcid s .hidInterrupt = 0 then
      some (s, .hidInterrupt)
    else none
  | c => (r.commandOf c).bind fun cmd ↦ (r.chained cmd.1 cmd.2).map fun ch ↦ (cmd.1, ch)

/-- The channel a command lets the peer open. -/
def accepted : L2capCommand → Option Channel
  | .connRequest req => Channel.byPsm req.psm
  | _ => none

/-- The channel a cause lets the peer open. -/
def accepts (r : Relay) (c : Cause) : Option (ConnectionSide × Channel) :=
  (r.commandOf c).bind fun cmd ↦ (accepted cmd.2).map fun ch ↦ (cmd.1, ch)

/-- The channel a command says is open. -/
def openedBy : L2capCommand → Option Channel
  | .connResponse rsp => if rsp.result = L2CAP_CR_SUCCESS then Channel.byScid rsp.scid else none
  | _ => none

/-- The channel a cause says is open. -/
def opened (r : Relay) (c : Cause) : Option (ConnectionSide × Channel) :=
  (r.commandOf c).bind fun cmd ↦ (openedBy cmd.2).map fun ch ↦ (cmd.1, ch)

/-- The remote end a command names for a channel. -/
def namedEnd : L2capCommand → Option UInt16
  | .connResponse rsp => if rsp.result = L2CAP_CR_SUCCESS then some rsp.dcid else none
  | .connRequest req => some req.scid
  | _ => none

end Relay

/-- For each local CID of the current link, how many channels are asked for and how many are open. -/
structure Openings where
  asked : ConnectionSide × Channel → ℕ := fun _ ↦ 0
  bound : ConnectionSide × Channel → ℕ := fun _ ↦ 0

namespace Openings

/-- How many channels a local CID has that are open or being opened. -/
def count (x : Openings) (k : ConnectionSide × Channel) : ℕ := x.asked k + x.bound k

/-- Another link starts without channels. -/
def noteLinks (x : Openings) (r r' : Relay) : Openings :=
  let kept (s : ConnectionSide) : Bool := (r.h s).links.connectionHandle == (r'.h s).links.connectionHandle
  { asked := fun k ↦ if kept k.1 then x.asked k else 0
    bound := fun k ↦ if kept k.1 then x.bound k else 0 }

/-- A request is answered. -/
def answer (x : Openings) (k : ConnectionSide × Channel) : Openings :=
  { x with asked := Function.update x.asked k (x.asked k - 1) }

/-- A channel is open. -/
def bind (x : Openings) (k : ConnectionSide × Channel) : Openings :=
  { x with bound := Function.update x.bound k (x.bound k + 1) }

/-- A channel is closed. -/
def unbind (x : Openings) (k : ConnectionSide × Channel) : Openings :=
  { x with bound := Function.update x.bound k (x.bound k - 1) }

/-- The peer answers, opens or closes a channel. -/
def noteCommand (x : Openings) (s : ConnectionSide) : L2capCommand → Openings
  | .connResponse rsp =>
    match Channel.byScid rsp.scid with
    | none => x
    | some c =>
      if rsp.result = L2CAP_CR_PEND then x
      else if rsp.result = L2CAP_CR_SUCCESS then (x.answer (s, c)).bind (s, c)
      else x.answer (s, c)
  | .connRequest req => (Channel.byPsm req.psm).elim x fun c ↦ x.bind (s, c)
  | .disconnRequest req => (Channel.byScid req.dcid).elim x fun c ↦ x.unbind (s, c)
  | _ => x

/-- The relay asks for channels. -/
def noteRequests (x : Openings) (requests : ConnectionSide → List Channel) : Openings :=
  { x with asked := fun k ↦ x.asked k + (requests k.1).count k.2 }

def note (x : Openings) (r : Relay) (i : Input) : Openings :=
  let x := x.noteLinks r (r.step i)
  let x := (r.commandOf (r.cause i)).elim x fun cmd ↦ x.noteCommand cmd.1 cmd.2
  x.noteRequests fun s ↦ r.connRequests s i

/-- Every local CID has at most one channel that is open or being opened. -/
def Single (x : Openings) : Prop := ∀ k, x.count k ≤ 1

/-- What a step opens is neither open nor being opened, an answer that nothing was asked for opens
nothing that is open, and the peer names no end that is the signalling channel. -/
structure OpensFree (x : Openings) (r : Relay) (i : Input) : Prop where
  calls : ∀ k, r.calls (r.cause i) = some k → x.count k = 0
  accepts : ∀ k, r.accepts (r.cause i) = some k → x.count k = 0
  answers : ∀ k, r.opened (r.cause i) = some k → x.asked k = 0 → x.bound k = 0
  ends : ∀ cmd, r.commandOf (r.cause i) = some cmd → namedEnd cmd.2 ≠ some L2CAP_CID_SIGNALLING

end Openings

/-- The relay and the channels of its links. -/
abbrev openingsStep : Relay × Openings → Input → Relay × Openings := withHistory Relay.step Openings.note

/-! ## What is asked for -/

namespace Relay

variable {r r' r'' : Relay} {s : ConnectionSide}

/-- From one state to another one side asks for these channels, or fewer. -/
def Asks (s : ConnectionSide) (r r' : Relay) (cs : List Channel) : Prop :=
  ∃ new, r'.out = r.out ++ new ∧ (new.filterMap (Output.connRequest? s)).Sublist cs

theorem Asks.trans {cs cs' : List Channel} (h : Asks s r r' cs) (h' : Asks s r' r'' cs') :
    Asks s r r'' (cs ++ cs') := by
  obtain ⟨new, hout, hnew⟩ := h
  obtain ⟨more, hout', hmore⟩ := h'
  refine ⟨new ++ more, by rw [hout', hout, List.append_assoc], ?_⟩
  rw [List.filterMap_append]
  exact hnew.append hmore

theorem Asks.mono {cs cs' : List Channel} (h : Asks s r r' cs) (hcs : cs.Sublist cs') : Asks s r r' cs' := by
  obtain ⟨new, hout, hnew⟩ := h
  exact ⟨new, hout, hnew.trans hcs⟩

/-- Nothing is asked for where nothing is written. -/
theorem asks_of_out (h : r'.out = r.out) : Asks s r r' [] := ⟨[], by rw [h, List.append_nil], .slnil⟩

/-- No channel of one side ends in the signalling channel. -/
def EndsApart (s : ConnectionSide) (r : Relay) : Prop := ∀ c, r.dcid s c ≠ L2CAP_CID_SIGNALLING

/-- Whatever opens no channel leaves the ends as they are, or takes them off. -/
theorem EndsApart.perform {A : Set Aspect} (he : EndsApart s r) {op : Op} (hop : op.Within A r)
    (hb : ¬ (.signalling s ∈ A ∧ .binding s ∈ A)) : EndsApart s (r.perform op) := by
  intro c
  cases op with
  | channels t f =>
    by_cases ht : s = t
    · subst ht
      have hdcid : (r.perform (.channels s f)).dcid s c = (f (r.h s).channels).dcid c := by
        simp [Relay.perform, dcid]
      rw [hdcid]
      have hkept : (f (r.h s).channels).standing = (r.h s).channels.standing →
          (f (r.h s).channels).dcid c ≠ L2CAP_CID_SIGNALLING := fun hf ↦ by
        rw [show (f (r.h s).channels).dcid = (r.h s).channels.dcid from congrArg Prod.fst hf]
        exact he c
      rcases hop with hf | hA | ⟨-, hf⟩ | ⟨-, hf⟩ | ⟨-, hf⟩
      · exact hkept (hf _).1
      · exact absurd ⟨hA.1, hA.2.1⟩ hb
      · rw [show (f (r.h s).channels).dcid = fun _ ↦ 0 from congrArg Prod.fst (hf _).1]
        exact (by decide : (0 : UInt16) ≠ L2CAP_CID_SIGNALLING)
      · rw [(hf _).1]
        exact he c
      · exact hkept (hf _)
    · simpa [Relay.perform, dcid, ht] using he c
  | _ => simpa [Relay.perform, dcid] using he c

theorem EndsApart.of_within {A : Set Aspect} (he : EndsApart s r) (h : Performs (Op.Within A) r r')
    (hb : .binding s ∉ A) : EndsApart s r' :=
  h.invariant (EndsApart s) he fun _ _ ha hop ↦ ha.perform hop fun hA ↦ hb hA.2

/-- Data on a channel asks for nothing. -/
theorem connRequest?_data {t : ConnectionSide} {handle cid : UInt16} {payload : List UInt8} {ok : Bool}
    {openHandles : Finset UInt16} (h : t = s → cid ≠ L2CAP_CID_SIGNALLING) :
    Output.connRequest? s (.acl t (aclFrame handle cid payload) ok openHandles) = none := by
  cases ok with
  | false => rfl
  | true =>
    refine if_neg fun hreq ↦ h hreq.1 ?_
    rw [← le16_aclFrame_cid handle cid payload]
    exact hreq.2.1

theorem asks_perform {A : Set Aspect} (he : EndsApart s r) {op : Op} (hop : op.Within A r)
    (hs : .signalling s ∉ A) : Asks s r (r.perform op) [] := by
  cases op with
  | frame t cid pre data =>
    refine ⟨_, out_l2capSendFrame r t cid pre data, ?_⟩
    have hcid : t = s → cid ≠ L2CAP_CID_SIGNALLING := by
      rintro rfl
      rcases hop with ⟨-, c, hc, -⟩ | hA | ⟨-, c, hc, -⟩
      · rw [← hc]
        exact he c
      · exact absurd hA.1 hs
      · rw [← hc]
        exact he c
    split
    · exact .slnil
    · rw [List.filterMap_cons_none (connRequest?_data hcid)]
      exact .slnil
  | emit o =>
    refine ⟨[o], rfl, ?_⟩
    cases o with
    | acl t frame ok openHandles => exact absurd hop (by rintro (h | h) <;> cases h)
    | _ => exact .slnil
  | pump t =>
    refine ⟨_, out_pumpCommands r t, ?_⟩
    rw [List.filterMap_eq_nil_iff.mpr fun o ho ↦ ?_]
    obtain ⟨q, -, rfl⟩ := List.mem_map.mp ho
    rw [pumpOutput]
    split <;> rfl
  | cmd t ogf ocf param what =>
    refine ⟨_, out_sendCmd r t ogf ocf param what, ?_⟩
    rw [List.filterMap_eq_nil_iff.mpr fun o ho ↦ ?_]
    rcases List.mem_cons.mp ho with rfl | ho
    · rfl
    · obtain ⟨q, -, rfl⟩ := List.mem_map.mp ho
      rw [pumpOutput]
      split <;> rfl
  | _ => exact asks_of_out rfl

/-- Whatever does without the signalling channel asks for nothing. -/
theorem asks_nothing {A : Set Aspect} (he : EndsApart s r) (h : Performs (Op.Within A) r r')
    (hs : .signalling s ∉ A) : Asks s r r' [] := by
  refine (h.invariant (fun a ↦ EndsApart s a ∧ Asks s r a []) ⟨he, asks_of_out rfl⟩ ?_).2
  rintro a op ⟨ha, hasks⟩ hop
  exact ⟨EndsApart.perform ha hop fun hA ↦ hs hA.1, hasks.trans (asks_perform ha hop hs)⟩

/-! ## Signalling -/

/-- Any signalling command but a CONN_REQ asks for nothing. -/
theorem asks_l2capSendCmd {code : UInt8} (hcode : code ≠ L2CAP_CONN_REQ) (r : Relay) (t : ConnectionSide)
    (ident : UInt8) (data : List UInt8) : Asks s r (r.l2capSendCmd t ident code data) [] := by
  refine ⟨_, out_l2capSendFrame r t _ _ _, ?_⟩
  split
  · exact .slnil
  · rw [List.filterMap_cons_none]
    · exact .slnil
    · cases r.env.aclWrite r.tick with
      | false => rfl
      | true => exact if_neg fun h ↦ hcode h.2.2

theorem asks_l2capSendCmdRequest {code : UInt8} (hcode : code ≠ L2CAP_CONN_REQ) (r : Relay)
    (t : ConnectionSide) (data : List UInt8) : Asks s r (r.l2capSendCmdRequest t code data) [] :=
  (asks_of_out rfl).trans (asks_l2capSendCmd hcode _ t _ data)

/-- The payload of a CONN_REQ. -/
def connRequest (ident : UInt8) (c : Channel) : List UInt8 :=
  [L2CAP_CONN_REQ, ident] ++ put16 4 ++ (put16 c.psm ++ put16 c.scid)

theorem connRequest?_connRequest (t : ConnectionSide) (handle : UInt16) (ident : UInt8) (c : Channel)
    (ok : Bool) (openHandles : Finset UInt16) :
    Output.connRequest? s
        (.acl t (aclFrame handle L2CAP_CID_SIGNALLING (connRequest ident c)) ok openHandles)
      = if ok = true ∧ t = s then some c else none := by
  have hcid := le16_aclFrame_cid handle L2CAP_CID_SIGNALLING (connRequest ident c)
  have hscid : le16 (aclFrame handle L2CAP_CID_SIGNALLING (connRequest ident c)) 15 = c.scid :=
    le16_put16 c.scid
  have hown : Channel.byScid c.scid = some c := by cases c <;> rfl
  cases ok with
  | false => rfl
  | true =>
    by_cases ht : t = s
    · rw [if_pos ⟨rfl, ht⟩, ← hown, ← hscid]
      exact if_pos ⟨ht, hcid, rfl⟩
    · rw [if_neg fun h ↦ ht h.2]
      exact if_neg fun h ↦ ht h.1

theorem asks_connRequest (r : Relay) (t : ConnectionSide) (ident : UInt8) (c : Channel) :
    Asks s r (r.l2capSendCmd t ident L2CAP_CONN_REQ (put16 c.psm ++ put16 c.scid))
      (if t = s then [c] else []) := by
  have hout : (r.l2capSendCmd t ident L2CAP_CONN_REQ (put16 c.psm ++ put16 c.scid)).out
      = r.out ++ [.acl t (aclFrame (r.h t).links.connectionHandle L2CAP_CID_SIGNALLING
          (connRequest ident c)) (r.env.aclWrite r.tick) (r.h t).links.openHandles] :=
    out_l2capSendFrame r t _ _ _
  refine ⟨_, hout, ?_⟩
  rw [List.filterMap_cons, List.filterMap_nil, connRequest?_connRequest]
  by_cases ht : t = s
  · rw [if_pos ht]
    by_cases hok : r.env.aclWrite r.tick = true
    · rw [if_pos ⟨hok, ht⟩]
    · rw [if_neg fun h ↦ hok h.1]
      exact List.nil_sublist _
  · rw [if_neg fun h ↦ ht h.2, if_neg ht]

/-- A CONN_REQ asks for the channel it names as its source. -/
theorem asks_l2capSendConnRequest (r : Relay) (t : ConnectionSide) (c : Channel) :
    Asks s r (r.l2capSendConnRequest t c) (if t = s then [c] else []) :=
  (asks_of_out rfl).trans (asks_connRequest _ t _ c)

/-! ## One step -/

/-- Of the channel a cause makes the relay ask for, what is the business of one side. -/
def called (k : Option (ConnectionSide × Channel)) (s : ConnectionSide) : List Channel :=
  match k with
  | none => []
  | some (t, c) => if t = s then [c] else []

theorem noteIdent_endsApart (he : EndsApart s r) (t : ConnectionSide) (ident : UInt8) :
    EndsApart s (r.noteIdent t ident) :=
  he.of_within (A := ∅) (Performs.within (quiet_onChannels r t fun _ ↦ ⟨rfl, rfl⟩)) (Set.notMem_empty _)

theorem asks_confRequestChain (r : Relay) (t : ConnectionSide) (req : L2capConfReq) {c : Channel}
    (hc : Channel.byScid req.dcid = some c) :
    Asks s r (r.confRequestChain t c) (called ((r.chained t (.confRequest req)).map (t, ·)) s) := by
  unfold confRequestChain chained
  dsimp only
  rw [hc]
  by_cases hin : (r.h t).links.incomingLink = true
  · rw [if_pos hin, if_pos hin]
    exact asks_of_out rfl
  · rw [if_neg hin, if_neg hin]
    cases t with
    | toDualsense =>
      cases c with
      | sdpClient => exact asks_l2capSendConnRequest r _ _
      | hidControl => exact asks_l2capSendConnRequest r _ _
      | _ => exact asks_of_out rfl
    | toPlaystation =>
      cases c with
      | hidControl =>
        dsimp only
        split <;> exact asks_of_out rfl
      | _ => exact asks_of_out rfl

/-- A signalling command makes the relay ask for the channel that is next, if any. -/
theorem asks_command (he : EndsApart s r) {t : ConnectionSide} {cmd : L2capCommand}
    (h : CommandMove r t cmd r') : Asks s r r' (called ((r.chained t cmd).map (t, ·)) s) := by
  have hnote : ∀ ident, Asks s r (r.noteIdent t ident) [] := fun _ ↦ asks_of_out rfl
  have hset : ∀ (a : Relay) (c : Channel) (d : UInt16), Asks s a (a.setDcid t c d) [] :=
    fun _ _ _ ↦ asks_of_out rfl
  cases h with
  | connResponse hp =>
    rename_i ident p rsp q
    refine (hnote ident).trans ?_
    unfold handleConnResponse
    rw [hp]
    dsimp only
    split
    · split
      · exact asks_of_out rfl
      · exact (hset _ _ _).trans (asks_l2capSendCmdRequest (by decide) _ t _)
    · exact asks_of_out rfl
  | confResponse hp =>
    rename_i ident p rsp q
    exact (hnote ident).trans (asks_nothing (A := ∅) (noteIdent_endsApart he t ident)
      (quiet_handleConfResponse _ t _).within (Set.notMem_empty _))
  | confRequest hp =>
    rename_i ident p req q
    refine (hnote ident).trans ?_
    unfold handleConfRequest
    rw [hp]
    dsimp only
    cases hc : Channel.byScid req.dcid with
    | none => exact (asks_of_out rfl).mono (List.nil_sublist _)
    | some c =>
      have hcode : L2CAP_CONF_RSP ≠ L2CAP_CONN_REQ := by decide
      have hrsp : ∀ (a : Relay) (data : List UInt8),
          Asks s a (a.l2capSendCmdResponse t (a.h t).channels.currentCmdIdent L2CAP_CONF_RSP data) [] :=
        fun a data ↦ asks_l2capSendCmd hcode a t _ data
      have hchained : ∀ data, ((r.noteIdent t ident).l2capSendCmdResponse t
          ((r.noteIdent t ident).h t).channels.currentCmdIdent L2CAP_CONF_RSP data).chained t
            (.confRequest req) = r.chained t (.confRequest req) := fun data ↦ by
        simp [chained, noteIdent, l2capSendCmdResponse, l2capSendCmd]
      rw [← hchained]
      exact (hrsp _ _).trans (asks_confRequestChain _ t req hc)
  | connRequest hp =>
    rename_i ident p req q
    refine (hnote ident).trans ?_
    unfold handleConnRequestL2cap
    rw [hp]
    dsimp only
    split
    · exact asks_l2capSendCmd (by decide) _ t _ _
    · exact ((hset _ _ _).trans (asks_l2capSendCmd (by decide) _ t _ _)).trans
        (asks_l2capSendCmdRequest (by decide) _ t _)
  | disconnRequest hp =>
    rename_i ident p req q
    refine (hnote ident).trans ?_
    have hcode : L2CAP_DISCONN_RSP ≠ L2CAP_CONN_REQ := by decide
    unfold handleDisconnRequest
    rw [hp]
    exact asks_l2capSendCmd hcode _ t _ _
  | other h => exact asks_nothing (A := ∅) he h.within (Set.notMem_empty _)

theorem EndsApart.setDcid (he : EndsApart s r) {t : ConnectionSide} {d : UInt16} (c : Channel)
    (hd : d ≠ L2CAP_CID_SIGNALLING) : EndsApart s (r.setDcid t c d) := by
  intro c'
  by_cases ht : s = t
  · subst ht
    by_cases hc : c' = c
    · simpa [Relay.setDcid, dcid, hc] using hd
    · simpa [Relay.setDcid, dcid, hc] using he c'
  · simpa [Relay.setDcid, dcid, ht] using he c'

/-- The channels end where the peer says. -/
theorem EndsApart.command (he : EndsApart s r) {t : ConnectionSide} {cmd : L2capCommand}
    (h : CommandMove r t cmd r') (hn : namedEnd cmd ≠ some L2CAP_CID_SIGNALLING) : EndsApart s r' := by
  have hnote : ∀ ident, EndsApart s (r.noteIdent t ident) := noteIdent_endsApart he t
  have hsend : ∀ {a : Relay}, EndsApart s a → ∀ ident code data,
      EndsApart s (a.l2capSendCmd t ident code data) := fun ha ident code data ↦
    ha.of_within (within_l2capSendCmd (A := {.signalling t}) _ t rfl _ _ _) (by simp)
  have hask : ∀ {a : Relay}, EndsApart s a → ∀ code data,
      EndsApart s (a.l2capSendCmdRequest t code data) := fun ha code data ↦
    ha.of_within (within_l2capSendCmdRequest (A := {.signalling t}) _ t rfl _ _) (by simp)
  cases h with
  | connResponse hp =>
    unfold handleConnResponse
    rw [hp]
    dsimp only
    split
    · split
      · exact hnote _
      · rename_i hs _ _ _
        refine hask ((hnote _).setDcid _ fun hd ↦ hn ?_) _ _
        rw [namedEnd, if_pos hs, hd]
    · exact hnote _
  | confResponse hp =>
    exact (hnote _).of_within (A := ∅) (quiet_handleConfResponse _ t _).within (Set.notMem_empty _)
  | confRequest hp =>
    exact (hnote _).of_within (within_handleConfRequest (A := {.signalling t}) _ t rfl _) (by simp)
  | connRequest hp =>
    unfold handleConnRequestL2cap
    rw [hp]
    dsimp only
    split
    · exact hsend (hnote _) _ _ _
    · exact hask (hsend ((hnote _).setDcid _ fun hd ↦ hn (congrArg some hd)) _ _ _) _ _
  | disconnRequest hp =>
    exact (hnote _).of_within (within_handleDisconnRequest (A := {.signalling t}) _ t rfl _ _) (by simp)
  | other h => exact he.of_within (A := ∅) h.within (Set.notMem_empty _)

/-- A PDU makes the relay ask for a channel if it is a command that does. -/
theorem asks_acl (he : EndsApart s r) (t : ConnectionSide) (p : PacketContents)
    (hn : ∀ cmd, r.commandOf (.acl t p) = some cmd → namedEnd cmd.2 ≠ some L2CAP_CID_SIGNALLING) :
    Asks s r (r.handleAcl t p) (called (r.calls (.acl t p)) s) ∧ EndsApart s (r.handleAcl t p) := by
  have hstep := acl_step r t p
  have hcalls : r.calls (.acl t p)
      = (r.commandOf (.acl t p)).bind fun cmd ↦ (r.chained cmd.1 cmd.2).map (cmd.1, ·) := rfl
  have hcommand : r.commandOf (.acl t p)
      = match (r.completedPdu t p).map PduContents.decode with
        | some (.command p) => some (t, .decode p)
        | _ => none := rfl
  revert hstep
  generalize r.handleAcl t p = r'
  intro hstep
  rw [hcalls]
  rw [hcommand] at hn ⊢
  revert hn hstep
  generalize r.completedPdu t p = completed
  intro hn hstep
  cases hstep with
  | kept h => exact ⟨asks_nothing he h (by simp), he.of_within h (by simp)⟩
  | routed h =>
    rename_i re pdu
    have harr : Performs (Op.Within {.linkNotes, .routing}) r (r.arriving t p re pdu) :=
      within_arriving r t (by simp) (by simp) p re pdu
    have ha : Asks s r (r.arriving t p re pdu) [] := asks_nothing he harr (by simp)
    have hae : EndsApart s (r.arriving t p re pdu) := he.of_within harr (by simp)
    have hchained : (r.arriving t p re pdu).chained t = r.chained t := by
      funext cmd
      simp [chained, arriving, setReasm]
    rw [Option.map_some] at hn ⊢
    have hpdu := pdu_move (r.arriving t p re pdu) t pdu
    revert hpdu h hn
    generalize (r.arriving t p re pdu).routeL2capPdu t pdu = mid
    generalize PduContents.decode pdu = contents
    intro hn h hpdu
    suffices hmid : Asks s (r.arriving t p re pdu) mid (called
        (Option.bind (match some contents with
          | some (.command p) => some (t, L2capCommand.decode p)
          | _ => none) fun cmd ↦ (r.chained cmd.1 cmd.2).map (cmd.1, ·)) s) ∧ EndsApart s mid by
      refine ⟨?_, hmid.2.of_within h (by simp)⟩
      have := (ha.trans hmid.1).trans (asks_nothing hmid.2 h (by simp))
      rwa [List.nil_append, List.append_nil] at this
    cases hpdu with
    | nothing => exact ⟨asks_of_out rfl, hae⟩
    | command =>
      rename_i q
      have hmove := command_move (r.arriving t p re pdu) t q
      refine ⟨?_, hae.command hmove (hn _ rfl)⟩
      have hask := asks_command hae hmove
      rwa [hchained] at hask
    | payload =>
      have hw := within_routePayload (A := {.relaying t.other, .reports, .forwarding, .console t, .pacing t})
        (r.arriving t p re pdu) t (by simp) (by simp) (by simp) (by simp) (by simp)
      exact ⟨asks_nothing hae (hw _ _) (by simp), hae.of_within (hw _ _) (by simp)⟩

theorem asks_handleAuthComplete (he : EndsApart s r) {t : ConnectionSide} {p q : PacketContents}
    {e : EvtAuthComplete} (hp : EvtAuthComplete.get? p = some (e, q)) :
    Asks s r (r.handleAuthComplete t p) (called (r.calls (.event t (.authComplete e))) s) := by
  have hcalls : r.calls (.event t (.authComplete e))
      = if t = .toDualsense ∧ e.status = HCI_SUCCESS then some (t, .sdpClient) else none := rfl
  rw [hcalls]
  by_cases hc : t = .toDualsense ∧ e.status = HCI_SUCCESS
  · rw [if_pos hc]
    obtain ⟨rfl, hs⟩ := hc
    have hask : r.handleAuthComplete .toDualsense p = r.l2capSendConnRequest .toDualsense .sdpClient := by
      rw [handleAuthComplete, hp]
      exact if_neg (not_not_intro hs)
    rw [hask]
    exact asks_l2capSendConnRequest r _ _
  · rw [if_neg hc]
    have hq := within_handleAuthComplete (A := {.keys}) r t rfl hp fun ht hs ↦ absurd ⟨ht, hs⟩ hc
    exact asks_nothing he hq (by simp)

theorem asks_handleEncryptChange (he : EndsApart s r) {t : ConnectionSide} {p q : PacketContents}
    {e : EvtEncryptChange} (hp : EvtEncryptChange.get? p = some (e, q)) :
    Asks s r (r.handleEncryptChange t p) (called (r.calls (.event t (.encryptChange e))) s) := by
  have hcalls : r.calls (.event t (.encryptChange e))
      = if t = .toDualsense ∧ e.status = HCI_SUCCESS ∧ e.encrypt ≠ 0 ∧ r.dcid t .sdpClient = 0 then
          some (t, .sdpClient)
        else none := rfl
  rw [hcalls]
  unfold handleEncryptChange
  rw [hp]
  dsimp -zeta only
  extract_lets r₁
  by_cases hon : e.status = HCI_SUCCESS ∧ t = .toDualsense ∧ e.encrypt ≠ 0
  · rw [if_pos hon]
    obtain ⟨hs, rfl, hon⟩ := hon
    have h₁ : Asks s r r₁ (called (if ConnectionSide.toDualsense = .toDualsense ∧ e.status = HCI_SUCCESS
        ∧ e.encrypt ≠ 0 ∧ r.dcid .toDualsense .sdpClient = 0 then some (.toDualsense, .sdpClient)
        else none) s) := by
      by_cases hd : r.dcid .toDualsense .sdpClient = 0
      · have heq : r₁ = r.l2capSendConnRequest .toDualsense .sdpClient := if_pos hd
        rw [if_pos ⟨rfl, hs, hon, hd⟩, heq]
        exact asks_l2capSendConnRequest r _ _
      · have heq : r₁ = r := if_neg hd
        rw [if_neg fun h ↦ hd h.2.2.2, heq]
        exact asks_of_out rfl
    have he₁ : EndsApart s r₁ := by
      refine he.of_within (A := {.signalling .toDualsense}) (.ite (fun _ ↦ ?_) fun _ ↦ .refl r) (by simp)
      exact within_l2capSendCmdRequest r _ (by rfl) _ _
    split
    · have hrole : ∀ addr, Performs Op.Quiet r₁ (r₁.requestCentralRole .toDualsense addr) := fun addr ↦
        quiet_sendCmd r₁ .toDualsense (by rfl) (addr.bytes ++ [0x00]) "switch role"
      rw [← List.append_nil (called _ s)]
      exact h₁.trans (asks_nothing (A := ∅) he₁ (hrole _).within (Set.notMem_empty _))
    · exact h₁
  · rw [if_neg hon, if_neg fun h ↦ hon ⟨h.2.1, h.1, h.2.2.1⟩]
    exact asks_of_out rfl

theorem asks_fireInterruptFallback (r : Relay) (t : ConnectionSide) (link : UInt16) :
    Asks s r (r.fireInterruptFallback t link) (called (r.calls (.interruptFallback t link)) s) := by
  have hcalls : r.calls (.interruptFallback t link)
      = if (r.h t).links.connectionHandle = link ∧ r.dcid t .hidInterrupt = 0 then
          some (t, .hidInterrupt)
        else none := rfl
  rw [hcalls, fireInterruptFallback]
  split
  · exact asks_l2capSendConnRequest r t _
  · exact asks_of_out rfl

/-- **What a step asks for.**  One channel at the most, and where `calls` says so. -/
theorem asks_step (he : EndsApart s r) (i : Input)
    (hn : ∀ cmd, r.commandOf (r.cause i) = some cmd → namedEnd cmd.2 ≠ some L2CAP_CID_SIGNALLING) :
    Asks s r (r.step i) (called (r.calls (r.cause i)) s) ∧ EndsApart s (r.step i) := by
  have hm := step_move r i
  have hw := hm.within
  revert hm hw hn
  generalize r.cause i = cause
  generalize r.step i = r'
  intro hn hm hw
  cases hm with
  | acl => exact asks_acl he _ _ hn
  | authComplete hp =>
    exact ⟨asks_handleAuthComplete he hp, he.of_within hw (by simp [Cause.aspects])⟩
  | encryptChange hp =>
    exact ⟨asks_handleEncryptChange he hp, he.of_within hw (by simp [Cause.aspects])⟩
  | interruptFallback hk =>
    rename_i t link k
    have hu : Asks s r (r.unpark k) [] := asks_of_out rfl
    exact ⟨hu.trans (asks_fireInterruptFallback _ t link), he.of_within hw (by simp [Cause.aspects])⟩
  | quiet h =>
    have hw : Performs (Op.Within ∅) r r' := h.within
    exact ⟨(asks_nothing he hw (Set.notMem_empty _)).mono (List.nil_sublist _),
      he.of_within hw (Set.notMem_empty _)⟩
  | _ => exact ⟨asks_nothing he hw (by simp [Cause.aspects]), he.of_within hw (by simp [Cause.aspects])⟩

end Relay

/-! ## One channel each -/

namespace Openings

variable {x : Openings} {r : Relay} {i : Input}

theorem count_noteLinks_le (x : Openings) (r r' : Relay) (k : ConnectionSide × Channel) :
    (x.noteLinks r r').count k ≤ x.count k := by
  unfold noteLinks count
  dsimp only
  split
  · exact le_rfl
  · exact Nat.zero_le _

theorem noteLinks_eq {r' : Relay} (h : ∀ s, r'.openLinks s = r.openLinks s) : x.noteLinks r r' = x := by
  have hkept : ∀ s, ((r.h s).links.connectionHandle == (r'.h s).links.connectionHandle) = true :=
    fun s ↦ beq_iff_eq.mpr (congrArg Prod.fst (h s)).symm
  simp [noteLinks, hkept]

theorem count_answer_le (x : Openings) (j k : ConnectionSide × Channel) :
    (x.answer j).count k ≤ x.count k := by
  by_cases hk : k = j
  · subst hk
    simp only [answer, count, Function.update_self]
    omega
  · simp [answer, count, hk]

theorem count_bind (x : Openings) (j k : ConnectionSide × Channel) :
    (x.bind j).count k = x.count k + if j = k then 1 else 0 := by
  by_cases hk : j = k
  · subst hk
    simp only [bind, count, Function.update_self, if_true]
    omega
  · simp [bind, count, hk, Ne.symm hk]

theorem count_unbind_le (x : Openings) (j k : ConnectionSide × Channel) :
    (x.unbind j).count k ≤ x.count k := by
  by_cases hk : k = j
  · subst hk
    simp only [unbind, count, Function.update_self]
    omega
  · simp [unbind, count, hk]

/-- What is answered makes room for what it opens, where it was asked for. -/
theorem count_answer_bind_le {x : Openings} {j : ConnectionSide × Channel}
    (hj : x.asked j = 0 → x.bound j = 0) (hx : x.Single) : ((x.answer j).bind j).Single := by
  intro k
  rw [count_bind]
  by_cases hk : j = k
  · subst hk
    have hone : x.asked j + x.bound j ≤ 1 := hx j
    have hcount : (x.answer j).count j = x.asked j - 1 + x.bound j := by
      simp [answer, count]
    rw [hcount, if_pos rfl]
    omega
  · rw [if_neg hk]
    exact (count_answer_le x j k).trans (hx k)

/-- A command opens one channel at the most, and that one is free. -/
theorem Single.noteCommand (hx : x.Single) (s : ConnectionSide) (cmd : L2capCommand)
    (haccepted : ∀ c, accepted cmd = some c → x.count (s, c) = 0)
    (hopened : ∀ c, openedBy cmd = some c → x.asked (s, c) = 0 → x.bound (s, c) = 0) :
    (x.noteCommand s cmd).Single := by
  cases cmd with
  | connResponse rsp =>
    unfold openedBy at hopened
    unfold Openings.noteCommand
    dsimp only at hopened ⊢
    cases hc : Channel.byScid rsp.scid with
    | none => exact hx
    | some c =>
      dsimp only
      split
      · exact hx
      · split
        · rename_i hs
          rw [if_pos hs, hc] at hopened
          exact count_answer_bind_le (hopened c rfl) hx
        · exact fun k ↦ (count_answer_le x _ k).trans (hx k)
  | connRequest req =>
    unfold accepted at haccepted
    unfold Openings.noteCommand
    dsimp only at haccepted ⊢
    cases hc : Channel.byPsm req.psm with
    | none => exact hx
    | some c =>
      intro k
      rw [Option.elim_some, count_bind]
      by_cases hk : (s, c) = k
      · rw [if_pos hk, ← hk, haccepted c hc]
      · rw [if_neg hk]
        exact hx k
  | disconnRequest req =>
    unfold Openings.noteCommand
    dsimp only
    cases Channel.byScid req.dcid with
    | none => exact hx
    | some c => exact fun k ↦ (count_unbind_le x _ k).trans (hx k)
  | _ => exact hx

/-- Of what one step asks for, a channel is there at most once. -/
theorem count_called (o : Option (ConnectionSide × Channel)) (k : ConnectionSide × Channel) :
    (called o k.1).count k.2 = if o = some k then 1 else 0 := by
  obtain ⟨s, c⟩ := k
  cases o with
  | none => rfl
  | some k =>
    obtain ⟨t, c'⟩ := k
    unfold called
    dsimp only
    by_cases ht : t = s
    · subst ht
      rw [if_pos rfl, List.count_singleton]
      by_cases hc : c' = c
      · subst hc
        rw [if_pos (beq_self_eq_true _), if_pos rfl]
      · rw [if_neg (by simpa using hc), if_neg fun h ↦ hc (congrArg Prod.snd (Option.some.inj h))]
    · rw [if_neg ht, if_neg fun h ↦ ht (congrArg Prod.fst (Option.some.inj h))]
      rfl

theorem count_noteRequests_le {requests : ConnectionSide → List Channel}
    {o : Option (ConnectionSide × Channel)} (h : ∀ s, (requests s).Sublist (called o s))
    (k : ConnectionSide × Channel) :
    (x.noteRequests requests).count k ≤ x.count k + if o = some k then 1 else 0 := by
  have hcount := (h k.1).count_le k.2
  rw [count_called] at hcount
  unfold noteRequests count
  dsimp only
  omega

/-- What is asked for is free, and so it is the only one. -/
theorem Single.noteRequests {requests : ConnectionSide → List Channel}
    {o : Option (ConnectionSide × Channel)} (hx : x.Single)
    (h : ∀ s, (requests s).Sublist (called o s)) (hfree : ∀ k, o = some k → x.count k = 0) :
    (x.noteRequests requests).Single := by
  intro k
  have hle := count_noteRequests_le (x := x) h k
  by_cases hk : o = some k
  · rw [if_pos hk, hfree k hk] at hle
    exact hle
  · rw [if_neg hk] at hle
    exact hle.trans (hx k)

/-- What a cause opens, asks for or closes, it does on the links that are there. -/
theorem noteLinks_step {cmd : ConnectionSide × L2capCommand} (h : r.commandOf (r.cause i) = some cmd) :
    x.noteLinks r (r.step i) = x := by
  have hw := (step_move r i).within
  revert hw h
  generalize r.cause i = cause
  intro h hw
  cases cause with
  | acl t p => exact noteLinks_eq fun s ↦ openLinks_eq hw s (by simp [Cause.aspects, aclAspects])
  | _ => cases h

/-- What is asked for at a command is what comes after it. -/
theorem chained_of_calls {s : ConnectionSide} {cmd : L2capCommand} {c : Cause}
    {k : ConnectionSide × Channel} (h : r.commandOf c = some (s, cmd)) (hk : r.calls c = some k) :
    r.chained s cmd = some k.2 := by
  cases c with
  | acl t p =>
    have hcalls : r.calls (.acl t p)
        = (r.commandOf (.acl t p)).bind fun cmd ↦ (r.chained cmd.1 cmd.2).map (cmd.1, ·) := rfl
    rw [hcalls, h, Option.bind_some, Option.map_eq_some_iff] at hk
    obtain ⟨c, hc, rfl⟩ := hk
    exact hc
  | _ => cases h

/-- A command that asks for the next channel opens none itself. -/
theorem noteCommand_of_chained {s : ConnectionSide} {cmd : L2capCommand} {c : Channel}
    (h : r.chained s cmd = some c) : x.noteCommand s cmd = x := by
  cases cmd with
  | confRequest req => rfl
  | _ => cases h

/-- **One step.**  What it opens is free, and so no channel is doubled. -/
theorem Single.note (hx : x.Single) (he : ∀ s, EndsApart s r) (hok : x.OpensFree r i) :
    (x.note r i).Single := by
  have hreq : ∀ s, (r.connRequests s i).Sublist (called (r.calls (r.cause i)) s) := by
    intro s
    obtain ⟨new, hout, hnew⟩ := (asks_step (he s) i hok.ends).1
    rw [connRequests, hout, List.drop_left]
    exact hnew
  unfold Openings.note
  dsimp only
  cases hcmd : r.commandOf (r.cause i) with
  | none =>
    have hlinks : (x.noteLinks r (r.step i)).Single := fun k ↦
      (count_noteLinks_le x r _ k).trans (hx k)
    refine hlinks.noteRequests hreq fun k hk ↦ ?_
    exact Nat.eq_zero_of_le_zero ((count_noteLinks_le x r _ k).trans (hok.calls k hk).le)
  | some cmd =>
    obtain ⟨s, cmd⟩ := cmd
    rw [Option.elim_some, noteLinks_step hcmd]
    have hopens := hx.noteCommand s cmd
      (fun c hc ↦ hok.accepts (s, c) (by simp [Relay.accepts, hcmd, hc]))
      (fun c hc ↦ hok.answers (s, c) (by simp [Relay.opened, hcmd, hc]))
    refine hopens.noteRequests hreq fun k hk ↦ ?_
    have hchained := chained_of_calls hcmd hk
    rw [noteCommand_of_chained hchained]
    exact hok.calls k hk

instance (x : Openings) (r : Relay) (i : Input) : Decidable (x.OpensFree r i) :=
  decidable_of_iff
    ((∀ k ∈ r.calls (r.cause i), x.count k = 0) ∧ (∀ k ∈ r.accepts (r.cause i), x.count k = 0)
      ∧ (∀ k ∈ r.opened (r.cause i), x.asked k = 0 → x.bound k = 0)
      ∧ ∀ cmd ∈ r.commandOf (r.cause i), namedEnd cmd.2 ≠ some L2CAP_CID_SIGNALLING)
    ⟨fun h ↦ ⟨h.1, h.2.1, h.2.2.1, h.2.2.2⟩, fun h ↦ ⟨h.calls, h.accepts, h.answers, h.ends⟩⟩

/-- Every local CID has at most one channel after this step. -/
def StaysSingle (p : Relay × Openings) (i : Input) : Prop := (openingsStep p i).2.Single

end Openings

open Openings

/-- **One channel each.**  In a run in which only free channels are asked for or accepted, no local CID
ever has two. -/
theorem one_channel_each (c : Config) (is : List Input)
    (h : Along openingsStep (fun p i ↦ p.2.OpensFree p.1 i) (.init c, {}) is) :
    Along openingsStep StaysSingle (.init c, {}) is := by
  let Inv (p : Relay × Openings) : Prop := p.2.Single ∧ ∀ s, EndsApart s p.1
  have hinit : Inv (.init c, {}) := ⟨fun _ ↦ Nat.zero_le 1, fun _ _ ↦ nofun⟩
  refine h.of_invariant hinit fun p i hp hok ↦ ?_
  have hsingle : (openingsStep p i).2.Single := hp.1.note hp.2 hok
  exact ⟨⟨hsingle, fun s ↦ (asks_step (hp.2 s) i hok.ends).2⟩, hsingle⟩

/-- The pad is called and authenticated, and so the relay asks for the SDP channel. -/
def askedForSdp : List Input :=
  Input.bringUp .toDualsense
    ++ [.connComplete .toDualsense HCI_SUCCESS 1 ⟨1, 2, 3, 4, 5, 6⟩,
      .event .toDualsense EVT_AUTH_COMPLETE (HCI_SUCCESS :: put16 1)]

/-- The pad opens the SDP channel and configures it, and so the relay asks for the next. -/
theorem one_channel_each_next :
    Along openingsStep StaysSingle (.init { dsAddr := ⟨1, 2, 3, 4, 5, 6⟩ }, {})
      (askedForSdp
        ++ [.signal .toDualsense 1 L2CAP_CONN_RSP 1
            (put16 0x41 ++ put16 Channel.sdpClient.scid ++ put16 0 ++ put16 0),
          .signal .toDualsense 1 L2CAP_CONF_REQ 1 (put16 Channel.sdpClient.scid ++ put16 0)]) :=
  one_channel_each _ _ (by decide +kernel)

/-- Encryption is on before the pad has answered. -/
def encryptionOn : Input := .event .toDualsense EVT_ENCRYPT_CHANGE (HCI_SUCCESS :: put16 1 ++ [0x01])

def beforeEncryption : Relay × Openings :=
  run openingsStep (.init { dsAddr := ⟨1, 2, 3, 4, 5, 6⟩ }, {}) askedForSdp

/-- The relay then asks for the SDP channel a second time. -/
theorem one_channel_each_encryption :
    ¬ Along openingsStep StaysSingle (.init { dsAddr := ⟨1, 2, 3, 4, 5, 6⟩ }, {})
      (askedForSdp ++ [encryptionOn]) := by
  intro h
  have hsingle : StaysSingle beforeEncryption encryptionOn := (along_append.mp h).2.1
  have htwo : (openingsStep beforeEncryption encryptionOn).2.count (.toDualsense, .sdpClient) = 2 := by
    decide +kernel
  exact absurd (hsingle (.toDualsense, .sdpClient)) (by rw [htwo]; decide)

end DualSenseMitm
