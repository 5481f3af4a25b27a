import MeshNetwork.Framework.Accesses
import MeshNetwork.Driver.Sockets

namespace MeshNetwork.Driver

/-- What update_adjacency_matrix meets: the tokens of adjacency_matrix_mask.txt, `none` when the
file cannot be opened, and the contents of its uninitialised locals `line` and `n`. -/
structure MaskFile where
  tokens : Option (List (List UInt8)) := none
  line : Nat → UInt8 := fun _ => 0
  n : UInt8 := 0

/-- `fscanf("%s", line)` stores the token and its terminator. -/
def storeToken (token : List UInt8) (line : Nat → UInt8) (k : Nat) : UInt8 :=
  if k < token.length then token.getD k 0 else if k = token.length then 0 else line k

/-- The loop that reads up to the row of the node, `rows` tokens to go. At the end of the file
fscanf answers -1, which is 255 in the U8 `n`, and leaves `line` alone. -/
def readRows : Nat → List (List UInt8) → (Nat → UInt8) → UInt8 → (Nat → UInt8) × UInt8
  | 0, _, line, n => (line, n)
  | _ + 1, [], line, _ => (line, 255)
  | rows + 1, token :: tokens, line, _ => readRows rows tokens (storeToken token line) 1

/-- Where the loop stores its tokens in `line`. -/
def rowAccesses : Nat → List (List UInt8) → List Access
  | 0, _ => []
  | _ + 1, [] => []
  | rows + 1, token :: tokens => Access.stringWrites token.length ++ rowAccesses rows tokens

/-- `update_adjacency_matrix`. The table `adj_M` is the memory from its first entry on. -/
def updateAdjacencyMatrix (deviceID : UInt32) (file : MaskFile) (adjM : Nat → UInt8) :
    Nat → UInt8 :=
  match file.tokens with
  | none => adjM
  | some tokens =>
    let node := (deviceID - baseID).toInt32.toInt
    let (line, n) := readRows (node + 1).toNat tokens file.line file.n
    if n ≠ 0 then fun k => if k < maxClients then line k - 48 else adjM k else adjM

/-- The size of `line`. -/
def lineSize : Nat := maxClients + 1

/-- The accesses of update_adjacency_matrix to `line`. -/
def lineAccesses (deviceID : UInt32) (file : MaskFile) : List Access :=
  match file.tokens with
  | none => []
  | some tokens =>
    let node := (deviceID - baseID).toInt32.toInt
    let rows := (node + 1).toNat
    rowAccesses rows tokens ++
      if (readRows rows tokens file.line file.n).2 ≠ 0 then (List.range maxClients).map .read
      else []

/-- `init_adjacency_matrix`: full connection, over whatever lies in memory. -/
def initAdjacencyMatrix (memory : Nat → UInt8) (k : Nat) : UInt8 :=
  if k = 0 then 0 else if k < maxClients then 1 else memory k

/-- One of the nodes that the table has an entry for. -/
def HasEntry (ID : UInt32) : Prop :=
  baseID.toNat ≤ ID.toNat ∧ ID.toNat < baseID.toNat + maxClients

instance (ID : UInt32) : Decidable (HasEntry ID) := inferInstanceAs (Decidable (_ ∧ _))

/-- The answer of check_adjacency_matrix on the refreshed table. Nothing checks the index: the
answer `none` is an access outside the table, and the call does not get beyond it. -/
def maskEntry (adjM : Nat → UInt8) (receiverID : UInt32) : Option Bool :=
  let index := (receiverID - baseID).toNat
  if index < maxClients then some (adjM index == 1) else none

/-- The entries of `adj_M` that the answer is read from. -/
def maskReads (receiverID : UInt32) : List Nat := [(receiverID - baseID).toNat]

/-- `check_adjacency_matrix` refreshes the table each time and then reads one entry. -/
def checkAdjacencyMatrix (deviceID : UInt32) (file : MaskFile) (adjM : Nat → UInt8)
    (receiverID : UInt32) : Option Bool × (Nat → UInt8) :=
  let adjM := updateAdjacencyMatrix deviceID file adjM
  (maskEntry adjM receiverID, adjM)

theorem index_lt_iff (ID : UInt32) : (ID - baseID).toNat < maxClients ↔ HasEntry ID := by
  have hlt := ID.toNat_lt
  have hbase : baseID.toNat = 0x20202020 := rfl
  have hmax : maxClients = 10 := rfl
  rw [HasEntry, UInt32.toNat_sub, hbase, hmax]
  omega

/-- A lookup is answered if and only if the table has an entry for the node. -/
theorem checkAdjacencyMatrix_eq_none_iff {deviceID : UInt32} {file : MaskFile}
    {adjM : Nat → UInt8} {receiverID : UInt32} :
    (checkAdjacencyMatrix deviceID file adjM receiverID).1 = none ↔ ¬HasEntry receiverID := by
  simp [checkAdjacencyMatrix, maskEntry, ← index_lt_iff]

theorem hasEntry_of_answer {deviceID : UInt32} {file : MaskFile} {adjM : Nat → UInt8}
    {receiverID : UInt32} {allowed : Bool}
    (h : (checkAdjacencyMatrix deviceID file adjM receiverID).1 = some allowed) :
    HasEntry receiverID := by
  by_contra hno
  cases h.symm.trans (checkAdjacencyMatrix_eq_none_iff.mpr hno)

/-- The answer depends on the entries that are read and on no others. -/
theorem maskEntry_congr {adjM adjM' : Nat → UInt8} {receiverID : UInt32}
    (h : ∀ k ∈ maskReads receiverID, adjM k = adjM' k) :
    maskEntry adjM receiverID = maskEntry adjM' receiverID := by
  rw [maskEntry, maskEntry, h _ (List.mem_singleton_self _)]

/-- Refreshing twice from one file is refreshing once. -/
theorem updateAdjacencyMatrix_idem (deviceID : UInt32) (file : MaskFile) (adjM : Nat → UInt8) :
    updateAdjacencyMatrix deviceID file (updateAdjacencyMatrix deviceID file adjM) =
      updateAdjacencyMatrix deviceID file adjM := by
  unfold updateAdjacencyMatrix
  cases file.tokens with
  | none => rfl
  | some tokens =>
    dsimp only
    split_ifs with hn
    · funext k
      simp only
      split_ifs
      · rfl
      · rfl
    · rfl

end MeshNetwork.Driver
