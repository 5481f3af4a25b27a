import MeshNetwork.Network.Messages

namespace MeshNetwork.Network

open Driver Framing Node PacketCode

variable {ι : Type} [DecidableEq ι] {link : HubLink}

/-- Whatever one node has received of a message for one node, no other has received it. -/
def Unrepeated (arrived : ι → List (End ι × Nat × link.Message)) : Prop :=
  ∀ b b', ∀ x ∈ arrived b, ∀ x' ∈ arrived b', x.1.1 = x'.1.1 → x.2.1 = x'.2.1 →
    x.2.2.dest ≠ broadcastID → b = b' ∧ x = x'

/-- A message for one node is received at one node, and once. -/
theorem Sent.arrives_once {IDs : ι → UInt32} {t : Swarm ι link}
    {sent : End ι → List (Nat × link.Message)} (h : Sent t sent) {b b' : ι}
    {L L' : List (End ι × Nat × link.Message)} (hL : Arrives IDs t b sent L)
    (hL' : Arrives IDs t b' sent L') {x x' : End ι × Nat × link.Message} (hx : x ∈ L)
    (hx' : x' ∈ L') (hnode : x.1.1 = x'.1.1) (hnumber : x.2.1 = x'.2.1)
    (hdest : x.2.2.dest ≠ broadcastID) : b = b' ∧ x = x' := by
  obtain ⟨⟨a, c⟩, n, m⟩ := x
  obtain ⟨⟨a', c'⟩, n', m'⟩ := x'
  obtain rfl : a = a' := hnode
  obtain rfl : n = n' := hnumber
  obtain rfl : m = m' := Option.some.inj ((hL.given _ hx).symm.trans (hL'.given _ hx'))
  have hsent := (hL.order (a, c)).mem (mem_messagesOf.mpr hx)
  have hsent' := (hL'.order (a, c')).mem (mem_messagesOf.mpr hx')
  have hend := h.single (a, c) (a, c') (n, m) rfl hsent hsent' hdest
  obtain ⟨k, hk⟩ := hL.wired _ hx
  obtain ⟨k', hk'⟩ := hL'.wired _ hx'
  dsimp only at hk hk'
  rw [hend, hk'] at hk
  exact ⟨(congrArg Prod.fst (Option.some.inj hk)).symm, congrArg (·, n, m) hend⟩

/-- In every run of a network whose nodes keep clear of the known defects, and whose read tasks take
turns at the deframers, a message for one node arrives once at most in the whole network. -/
theorem unicast_once (addressToIp4 : List UInt8 → Bool)
    (node : List UInt8 → UInt16 → Option ι) (link : HubLink) (IDs : ι → UInt32)
    (hplain : ∀ a, ¬[tagI, tagD] <:+: bigEndian (IDs a)) (adjM : ι → Nat → UInt8)
    (acts : List (SwarmAct ι)) (t : Swarm ι link)
    (hrun : run (Swarm.step addressToIp4 node) (.init link IDs adjM) acts = some t)
    (hkeeps : AllSteps (Swarm.step addressToIp4 node) Swarm.Keeps
      (.init link IDs adjM) acts)
    (hturns : ∀ b, link.code.TakeTurns (t.uplinks b)) :
    ∃ sent arrived, Sent t sent ∧ (∀ b, Arrives IDs t b sent (arrived b)) ∧
      Unrepeated arrived := by
  have h := run_invariant (fun _ _ _ hi hg hs => Swarm.Inv.step hi hplain hg hs)
    (Swarm.inv_init link IDs adjM) hkeeps hrun
  obtain ⟨sent, hsent⟩ := h.exists_sent
  choose arrived harrived using fun b => h.exists_arrives hsent b (hturns b)
  refine ⟨sent, arrived, hsent, harrived, ?_⟩
  intro b b' x hx x' hx'
  exact hsent.arrives_once (harrived b) (harrived b') hx hx'

theorem takeTurns_number (b : Bool) : fprimeLink.code.TakeTurns (numberEnd.uplinks b) :=
  takeTurns_of_source 0 (by cases b <;> decide +kernel)

theorem unicast_once_number : numberEnd.received true = [.val1 42] ∧
    ∃ sent arrived, Sent numberEnd sent ∧ (∀ b, Arrives pairIDs numberEnd b sent (arrived b)) ∧
      Unrepeated arrived :=
  ⟨by decide +kernel, unicast_once (fun _ => true) (fun _ _ => some true) fprimeLink pairIDs
    (by decide) _ numberActs numberEnd (Option.some_get (by decide +kernel)).symm
    (by decide +kernel) takeTurns_number⟩

end MeshNetwork.Network
