import MeshNetwork.Framework.Binary64
import Mathlib.Analysis.InnerProductSpace.PiL2
import Mathlib.Data.UInt

namespace MeshNetwork.Positioning

structure EcPos where
  x : Int32
  y : Int32
  z : Int32
  deriving DecidableEq, Repr

def FitsI32 (n : Int) : Prop := Int32.minValue.toInt ≤ n ∧ n ≤ Int32.maxValue.toInt

instance (n : Int) : Decidable (FitsI32 n) := inferInstanceAs (Decidable (_ ∧ _))

/-- A value that is stored in an I32; it is undefined what happens to one that does not fit. -/
def toI32 (n : Int) : Option Int32 := if FitsI32 n then some (.ofInt n) else none

def subI32 (a b : Int32) : Option Int32 := toI32 (a.toInt - b.toInt)

/-- `pow(a, 2)`: the double nearest to the square. -/
def pow2 (a : Int32) : Nat := toDouble (a.toInt.natAbs ^ 2)

/-- GPS_get_ec_position, with what rand gives to its three calls. -/
def gpsGetEcPosition (randX randY randZ : Nat) : EcPos where
  x := .ofNat (144 + randX % 100)
  y := .ofNat (124 + randY % 100)
  z := .ofNat (903 + randZ % 100)

/-- The distance that remotePosition_handler reports, where its behaviour is defined. -/
def remotePositionHandler (position : EcPos) (randX randY randZ : Nat) : Option Int32 := do
  let self_position := gpsGetEcPosition randX randY randZ
  let dx ← subI32 position.x self_position.x
  let dy ← subI32 position.y self_position.y
  let dz ← subI32 position.z self_position.z
  let distance ← toI32 (toDouble (toDouble (pow2 dx + pow2 dy) + pow2 dz))
  toI32 (truncSqrt distance.toInt.toNat)

/-- Exact, where the code computes with 32 bits and with doubles. -/
def squaredDistance (p q : EcPos) : Int :=
  (p.x.toInt - q.x.toInt) ^ 2 + (p.y.toInt - q.y.toInt) ^ 2 + (p.z.toInt - q.z.toInt) ^ 2

noncomputable def EcPos.point (p : EcPos) : EuclideanSpace ℝ (Fin 3) :=
  WithLp.toLp 2 ![(p.x.toInt : ℝ), (p.y.toInt : ℝ), (p.z.toInt : ℝ)]

/-- No intermediate value overflows, and the distance is the integer part of the Euclidean one. -/
structure DistanceFits (position : EcPos) (randX randY randZ : Nat) : Prop where
  fitsX : FitsI32 (position.x.toInt - (gpsGetEcPosition randX randY randZ).x.toInt)
  fitsY : FitsI32 (position.y.toInt - (gpsGetEcPosition randX randY randZ).y.toInt)
  fitsZ : FitsI32 (position.z.toInt - (gpsGetEcPosition randX randY randZ).z.toInt)
  fitsSum : FitsI32 (squaredDistance position (gpsGetEcPosition randX randY randZ))
  reported : ∃ distance : Int32,
    remotePositionHandler position randX randY randZ = some distance ∧ 0 ≤ distance.toInt ∧
      distance.toInt = ⌊dist position.point (gpsGetEcPosition randX randY randZ).point⌋

theorem dist_point (p q : EcPos) : dist p.point q.point = √(squaredDistance p q : ℝ) := by
  rw [EuclideanSpace.dist_eq, Fin.sum_univ_three]
  simp only [Real.dist_eq, sq_abs, squaredDistance]
  push_cast
  rfl

section handler

variable {n : Int} {p q : EcPos}

theorem toI32_of_fits (h : FitsI32 n) : toI32 n = some (.ofInt n) := if_pos h

theorem toInt_ofInt_of_fits (h : FitsI32 n) : (Int32.ofInt n).toInt = n :=
  Int32.toInt_ofInt_of_le h.1 (Int.lt_add_one_of_le h.2)

theorem toI32_eq_some {v : Int32} (h : toI32 n = some v) : v.toInt = n ∧ FitsI32 n := by
  by_cases hn : FitsI32 n
  · rw [toI32_of_fits hn] at h
    obtain rfl := Option.some.inj h
    exact ⟨toInt_ofInt_of_fits hn, hn⟩
  · rw [toI32, if_neg hn] at h
    cases h

theorem fitsI32_natCast {n : Nat} : FitsI32 n ↔ n < 2 ^ 31 := by
  have hmin : Int32.minValue.toInt = -2 ^ 31 := by decide
  have hmax : Int32.maxValue.toInt = 2 ^ 31 - 1 := by decide
  rw [FitsI32, hmin, hmax]
  omega

theorem squaredDistance_nonneg (p q : EcPos) : 0 ≤ squaredDistance p q := by
  unfold squaredDistance
  positivity

theorem fitsI32_of_sq (h : n ^ 2 < 2 ^ 31) : FitsI32 n := by
  have hmin : Int32.minValue.toInt = -2 ^ 31 := by decide
  have hmax : Int32.maxValue.toInt = 2 ^ 31 - 1 := by decide
  have hlt := abs_lt_of_sq_lt_sq' (a := n) (b := 2 ^ 31 - 1) (by linarith) (by norm_num)
  rw [FitsI32, hmin, hmax]
  omega

/-- Where the sum of the squares fits, so does each difference. -/
theorem fits_differences (h : squaredDistance p q < 2 ^ 31) :
    FitsI32 (p.x.toInt - q.x.toInt) ∧ FitsI32 (p.y.toInt - q.y.toInt) ∧
      FitsI32 (p.z.toInt - q.z.toInt) := by
  have hx := sq_nonneg (p.x.toInt - q.x.toInt)
  have hy := sq_nonneg (p.y.toInt - q.y.toInt)
  have hz := sq_nonneg (p.z.toInt - q.z.toInt)
  unfold squaredDistance at h
  exact ⟨fitsI32_of_sq (by omega), fitsI32_of_sq (by omega), fitsI32_of_sq (by omega)⟩

theorem subI32_eq_some {a b d : Int32} : subI32 a b = some d ↔ d.toInt = a.toInt - b.toInt := by
  constructor
  · exact fun h => (toI32_eq_some h).1
  · intro h
    have hfits : FitsI32 (a.toInt - b.toInt) := h ▸ ⟨d.minValue_le_toInt, d.toInt_le⟩
    rw [subI32, toI32_of_fits hfits, ← h, Int32.ofInt_toInt]

/-- What the sum of the squares would be without rounding. -/
def exactSum (dx dy dz : Int32) : Nat :=
  dx.toInt.natAbs ^ 2 + dy.toInt.natAbs ^ 2 + dz.toInt.natAbs ^ 2

variable {dx dy dz : Int32}

theorem squaredDistance_eq_exactSum (hx : dx.toInt = p.x.toInt - q.x.toInt)
    (hy : dy.toInt = p.y.toInt - q.y.toInt) (hz : dz.toInt = p.z.toInt - q.z.toInt) :
    squaredDistance p q = exactSum dx dy dz := by
  rw [exactSum]
  push_cast
  rw [sq_abs, sq_abs, sq_abs, hx, hy, hz, squaredDistance]

/-- Rounding matters only where the sum is too large anyway. -/
theorem sum_lt_iff (dx dy dz : Int32) :
    toDouble (toDouble (pow2 dx + pow2 dy) + pow2 dz) < 2 ^ 31 ↔ exactSum dx dy dz < 2 ^ 31 := by
  rw [toDouble_lt_iff (by norm_num), pow2, pow2, pow2, toDouble_add_lt_iff (by norm_num),
    ← Nat.lt_sub_iff_add_lt, toDouble_add_lt_iff ((Nat.sub_le _ _).trans (by norm_num)),
    Nat.lt_sub_iff_add_lt, exactSum]

theorem sum_eq (h : exactSum dx dy dz < 2 ^ 31) :
    toDouble (toDouble (pow2 dx + pow2 dy) + pow2 dz) = exactSum dx dy dz := by
  unfold exactSum at h ⊢
  rw [pow2, pow2, pow2, toDouble_of_lt (n := dx.toInt.natAbs ^ 2) (by omega),
    toDouble_of_lt (n := dy.toInt.natAbs ^ 2) (by omega),
    toDouble_of_lt (n := dz.toInt.natAbs ^ 2) (by omega),
    toDouble_of_lt (n := dx.toInt.natAbs ^ 2 + dy.toInt.natAbs ^ 2) (by omega),
    toDouble_of_lt (by omega)]

/-- What the handler reports, and when it reports at all. -/
theorem remotePositionHandler_eq_some {position : EcPos} {randX randY randZ : Nat}
    {distance : Int32} :
    remotePositionHandler position randX randY randZ = some distance ↔
      squaredDistance position (gpsGetEcPosition randX randY randZ) < 2 ^ 31 ∧
        distance.toInt =
          (squaredDistance position (gpsGetEcPosition randX randY randZ)).toNat.sqrt := by
  generalize hself : gpsGetEcPosition randX randY randZ = self_position
  simp only [remotePositionHandler, hself, Option.bind_eq_bind, Option.bind_eq_some_iff,
    subI32_eq_some]
  constructor
  · intro h
    obtain ⟨dx, hx, dy, hy, dz, hz, sum, hsum, hroot⟩ := h
    obtain ⟨hsum, hfits⟩ := toI32_eq_some hsum
    have hlt := (sum_lt_iff dx dy dz).1 (fitsI32_natCast.1 hfits)
    rw [sum_eq hlt] at hsum
    rw [squaredDistance_eq_exactSum hx hy hz]
    refine ⟨by exact_mod_cast hlt, ?_⟩
    rw [(toI32_eq_some hroot).1, hsum, Int.toNat_natCast, truncSqrt_eq_sqrt (by omega)]
  · intro h
    obtain ⟨hlt, hdistance⟩ := h
    obtain ⟨hx, hy, hz⟩ := fits_differences hlt
    obtain ⟨dx, hx⟩ : ∃ dx : Int32, dx.toInt = _ := ⟨_, toInt_ofInt_of_fits hx⟩
    obtain ⟨dy, hy⟩ : ∃ dy : Int32, dy.toInt = _ := ⟨_, toInt_ofInt_of_fits hy⟩
    obtain ⟨dz, hz⟩ : ∃ dz : Int32, dz.toInt = _ := ⟨_, toInt_ofInt_of_fits hz⟩
    rw [squaredDistance_eq_exactSum hx hy hz, Int.toNat_natCast] at hdistance
    rw [squaredDistance_eq_exactSum hx hy hz] at hlt
    have hlt : exactSum dx dy dz < 2 ^ 31 := by exact_mod_cast hlt
    have hfits : FitsI32 (exactSum dx dy dz) := fitsI32_natCast.2 hlt
    refine ⟨dx, hx, dy, hy, dz, hz, .ofInt (exactSum dx dy dz), ?_, ?_⟩
    · rw [sum_eq hlt, toI32_of_fits hfits]
    · rw [toInt_ofInt_of_fits hfits, Int.toNat_natCast, truncSqrt_eq_sqrt (by omega), ← hdistance,
        toI32_of_fits ⟨distance.minValue_le_toInt, distance.toInt_le⟩, Int32.ofInt_toInt]

end handler

section reported

variable {position : EcPos} {randX randY randZ : Nat}

theorem distanceFits_iff :
    DistanceFits position randX randY randZ ↔
      squaredDistance position (gpsGetEcPosition randX randY randZ) < 2 ^ 31 := by
  constructor
  · intro h
    exact Int.lt_add_one_of_le h.fitsSum.2
  · intro h
    have hnonneg := squaredDistance_nonneg position (gpsGetEcPosition randX randY randZ)
    obtain ⟨hx, hy, hz⟩ := fits_differences h
    obtain ⟨n, hn⟩ := Int.eq_ofNat_of_zero_le hnonneg
    rw [hn] at h
    have hroot : FitsI32 n.sqrt :=
      fitsI32_natCast.2 ((Nat.sqrt_le_self n).trans_lt (by exact_mod_cast h))
    refine ⟨hx, hy, hz, ?_, .ofInt n.sqrt, remotePositionHandler_eq_some.2 ⟨?_, ?_⟩, ?_, ?_⟩
    · rw [hn]
      exact fitsI32_natCast.2 (by exact_mod_cast h)
    · rw [hn]
      exact h
    · rw [hn, toInt_ofInt_of_fits hroot, Int.toNat_natCast]
    · rw [toInt_ofInt_of_fits hroot]
      exact Int.natCast_nonneg _
    · rw [toInt_ofInt_of_fits hroot, dist_point, hn, Int.cast_natCast,
        Real.floor_real_sqrt_eq_nat_sqrt]

theorem distanceFits_iff_dist :
    DistanceFits position randX randY randZ ↔
      dist position.point (gpsGetEcPosition randX randY randZ).point < √(2 ^ 31) := by
  rw [distanceFits_iff, dist_point,
    Real.sqrt_lt_sqrt_iff (Int.cast_nonneg (squaredDistance_nonneg _ _))]
  exact_mod_cast Iff.rfl

/-- How far a coordinate is from the farther end of the range of an own coordinate. -/
def farthest (c : Int32) (low : Int) : Int := max |c.toInt - (low + 99)| |c.toInt - low|

theorem gpsGetEcPosition_toInt (randX randY randZ : Nat) :
    (gpsGetEcPosition randX randY randZ).x.toInt = 144 + (randX % 100 : Nat) ∧
      (gpsGetEcPosition randX randY randZ).y.toInt = 124 + (randY % 100 : Nat) ∧
      (gpsGetEcPosition randX randY randZ).z.toInt = 903 + (randZ % 100 : Nat) := by
  have own (low rand : Nat) (hlow : low < 1000) :
      (Int32.ofNat (low + rand % 100)).toInt = low + (rand % 100 : Nat) := by
    rw [Int32.toInt_ofNat_of_lt (by omega), Nat.cast_add]
  exact ⟨own 144 randX (by decide), own 124 randY (by decide), own 903 randZ (by decide)⟩

theorem sq_le_farthest (c : Int32) (low : Int) (rand : Nat) :
    (c.toInt - (low + (rand % 100 : Nat))) ^ 2 ≤ farthest c low ^ 2 := by
  rw [← sq_abs]
  exact pow_le_pow_left₀ (abs_nonneg _) (abs_le_max_abs_abs (by omega) (by omega)) 2

theorem exists_farthest (c : Int32) (low : Int) :
    ∃ rand : Nat, (c.toInt - (low + (rand % 100 : Nat))) ^ 2 = farthest c low ^ 2 := by
  rcases max_choice |c.toInt - (low + 99)| |c.toInt - low| with h | h
  · refine ⟨99, ?_⟩
    rw [farthest, h, sq_abs]
    rfl
  · refine ⟨0, ?_⟩
    rw [farthest, h, sq_abs, Nat.zero_mod, Nat.cast_zero, Int.add_zero]

/-- Only a position near the own one is safe: the sum of the squares has to fit before its root is
taken. The own positions are a box, and its corners decide about all of them. -/
theorem distance_fits (position : EcPos) :
    (∀ randX randY randZ, DistanceFits position randX randY randZ ↔
      dist position.point (gpsGetEcPosition randX randY randZ).point < √(2 ^ 31)) ∧
    ((∀ randX randY randZ, DistanceFits position randX randY randZ) ↔
      farthest position.x 144 ^ 2 + farthest position.y 124 ^ 2 + farthest position.z 903 ^ 2 <
        2 ^ 31) := by
  refine ⟨fun _ _ _ => distanceFits_iff_dist, ?_⟩
  simp only [distanceFits_iff, squaredDistance, gpsGetEcPosition_toInt]
  constructor
  · intro h
    obtain ⟨randX, hx⟩ := exists_farthest position.x 144
    obtain ⟨randY, hy⟩ := exists_farthest position.y 124
    obtain ⟨randZ, hz⟩ := exists_farthest position.z 903
    have hcorner := h randX randY randZ
    rwa [hx, hy, hz] at hcorner
  · intro h randX randY randZ
    have hx := sq_le_farthest position.x 144 randX
    have hy := sq_le_farthest position.y 124 randY
    have hz := sq_le_farthest position.z 903 randZ
    omega

/-- A position on the equator, in metres: the sum of the squares does not fit. -/
theorem distance_fits_fails :
    remotePositionHandler ⟨6378137, 0, 0⟩ 0 0 0 = none ∧ ¬ DistanceFits ⟨6378137, 0, 0⟩ 0 0 0 := by
  have hfar : ¬ squaredDistance ⟨6378137, 0, 0⟩ (gpsGetEcPosition 0 0 0) < 2 ^ 31 := by decide
  refine ⟨?_, fun h => hfar (distanceFits_iff.1 h)⟩
  rw [Option.eq_none_iff_forall_ne_some]
  exact fun _ h => hfar (remotePositionHandler_eq_some.1 h).1

/-- Two nodes that send each other the positions they simulate get the distance right. -/
theorem simulated_distance (randX randY randZ randX' randY' randZ' : Nat) :
    DistanceFits (gpsGetEcPosition randX randY randZ) randX' randY' randZ' := by
  have near (low : Int) (rand rand' : Nat) :
      (low + (rand % 100 : Nat) - (low + (rand' % 100 : Nat))) ^ 2 ≤ 99 ^ 2 :=
    sq_le_sq' (by omega) (by omega)
  have hx := near 144 randX randX'
  have hy := near 124 randY randY'
  have hz := near 903 randZ randZ'
  simp only [distanceFits_iff, squaredDistance, gpsGetEcPosition_toInt]
  omega

end reported

end MeshNetwork.Positioning
