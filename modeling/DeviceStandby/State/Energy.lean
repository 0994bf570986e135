import DeviceStandby.State.Step
import Mathlib.Algebra.BigOperators.Ring.Finset
import Mathlib.Algebra.Order.Ring.Rat
import Mathlib.Tactic.LinearCombination
import Mathlib.Tactic.Linarith
import Mathlib.Tactic.NormNum
import Mathlib.Tactic.Ring

/-!
# The energy of a motion

A motion monitor judges by the energy of the samples of the accelerometer. The energy is a static
field that both monitors share, as are the samples it is computed from: each sample adds the square
of its distance from `previousAccelData_`. A stop forgets that sample and the next one sets it, but
no later one does, so that the distances are all from the first sample of a round. `energy_iff` says
for which samples the energy is the one between consecutive samples nevertheless. The arithmetic is
exact here.
-/

namespace DeviceStandby

/-- `AccelData`. -/
@[ext] structure AccelData (K : Type) where
  x : K
  y : K
  z : K

namespace AccelData
variable {K : Type} [CommRing K]

/-- The difference of two samples. -/
def sub (a b : AccelData K) : AccelData K :=
  ⟨a.x - b.x, a.y - b.y, a.z - b.z⟩

/-- The inner product. -/
def dot (a b : AccelData K) : K :=
  a.x * b.x + a.y * b.y + a.z * b.z

/-- The square of the Euclidean distance. -/
def sqDist (a b : AccelData K) : K :=
  (a.sub b).dot (a.sub b)

/-- A sample is at no distance from itself. -/
theorem sqDist_self (a : AccelData K) : a.sqDist a = 0 := by
  simp [sqDist, sub, dot]

/-- The distance of two samples by their displacements from a third. -/
theorem sqDist_eq (a b o : AccelData K) :
    a.sqDist b = a.sqDist o + b.sqDist o - 2 * (a.sub o).dot (b.sub o) := by
  simp only [sqDist, sub, dot]
  ring

/-- Only equal samples are at no distance. -/
theorem sqDist_eq_zero [LinearOrder K] [IsStrictOrderedRing K] {a b : AccelData K} :
    a.sqDist b = 0 ↔ a = b := by
  constructor
  · intro h
    simp only [sqDist, sub, dot] at h
    have hx := mul_self_nonneg (a.x - b.x)
    have hy := mul_self_nonneg (a.y - b.y)
    have hz := mul_self_nonneg (a.z - b.z)
    ext
    · exact sub_eq_zero.1 (mul_self_eq_zero.1 (by linarith))
    · exact sub_eq_zero.1 (mul_self_eq_zero.1 (by linarith))
    · exact sub_eq_zero.1 (mul_self_eq_zero.1 (by linarith))
  · rintro rfl
    exact sqDist_self a

end AccelData

/-- The static fields of `MotionSensorMonitor`, and the monitors that share them. -/
structure MotionDetection (K : Type) where
  energy : K
  hasPrevAccelData : Bool
  previousAccelData : AccelData K
  currentAccelData : AccelData K
  monitors : Monitor → MotionSensorMonitor

/-- A `SensorEvent`, whose data may be null. -/
structure SensorEvent (K : Type) where
  data : Option (AccelData K)

abbrev COUNT_TIMES : Nat := 15

namespace MotionDetection
variable {K : Type} [CommRing K]

/-- The fields before anything is monitored. -/
def initial : MotionDetection K where
  energy := 0
  hasPrevAccelData := false
  previousAccelData := ⟨0, 0, 0⟩
  currentAccelData := ⟨0, 0, 0⟩
  monitors := fun _ => {}

/-- `MotionSensorMonitor::AddEnergy`. -/
def addEnergy (accelData : Option (AccelData K)) (s : MotionDetection K) : MotionDetection K :=
  match accelData with
  | none => s
  | some accelData =>
    let s := { s with currentAccelData := accelData }
    let s :=
      if ¬ s.hasPrevAccelData then
        { s with hasPrevAccelData := true, previousAccelData := s.currentAccelData }
      else s
    let diff := s.currentAccelData.sub s.previousAccelData
    { s with energy := s.energy + (diff.x * diff.x + diff.y * diff.y + diff.z * diff.z) }

/-- What `StopSensor` does to the static fields, before it looks whether the monitor is
monitoring. -/
def forgetPrevious (s : MotionDetection K) : MotionDetection K :=
  { s with hasPrevAccelData := false, previousAccelData := ⟨0, 0, 0⟩ }

/-- `MotionSensorMonitor::StopMonitoringInner`. -/
def stopMonitoringInner (m : Monitor) (s : MotionDetection K) : MotionDetection K :=
  { s.forgetPrevious with
    monitors := Function.update s.monitors m (s.monitors m).stopMonitoringInner }

/-- `MotionSensorMonitor::StartMonitoringInner`. A start that fails stops the sensors. -/
def startMonitoringInner (p : Platform) (m : Monitor) (s : MotionDetection K) :
    ErrCode × MotionDetection K :=
  let s := { s with energy := 0 }
  match (s.monitors m).startMonitoringInner p m.kind with
  | (.ok, monitor) => (.ok, { s with monitors := Function.update s.monitors m monitor })
  | (error, monitor) =>
    (error, { s.forgetPrevious with monitors := Function.update s.monitors m monitor })

/-- `MotionSensorMonitor::Init`, as far as it is about the sensors. -/
def init (p : Platform) (m : Monitor) (s : MotionDetection K) : MotionDetection K :=
  if p.usableSensors m.kind = [] then s
  else
    { s with
      monitors := Function.update s.monitors m { sensorUserMap := p.usableSensors m.kind } }

section
variable [LinearOrder K]

/-- `MotionSensorMonitor::AcceleromterCallback`, and whether it posts the task that ends the
evaluation with a motion. -/
def acceleromterCallback (threshold : Int) (event : Option (SensorEvent K))
    (s : MotionDetection K) : MotionDetection K × Bool :=
  match event with
  | none => (s, false)
  | some event =>
    let s := s.addEnergy event.data
    (s, decide (threshold < s.energy))

/-- `MotionSensorMonitor::RepeatAcceleromterCallback`, which divides the threshold by
`COUNT_TIMES`. -/
def repeatAcceleromterCallback (threshold : Int) (event : Option (SensorEvent K))
    (s : MotionDetection K) : MotionDetection K × Bool :=
  match event with
  | none => (s, false)
  | some event =>
    let s := s.addEnergy event.data
    (s, decide (threshold < s.energy * COUNT_TIMES))

end

/-- What happens to a monitor beside samples. -/
inductive Control where
  | init (m : Monitor) (p : Platform)
  | start (m : Monitor) (p : Platform)
  | stop (m : Monitor)

/-- What happens to the monitors. The sensor service calls back for either of them. -/
inductive Event (K : Type) where
  | control (c : Control)
  | sample (repeated : Bool) (threshold : Int) (event : Option (SensorEvent K))

/-- Something other than a sample. -/
def control (s : MotionDetection K) : Control → MotionDetection K
  | .init m p => s.init p m
  | .start m p => (s.startMonitoringInner p m).2
  | .stop m => s.stopMonitoringInner m

/-- Something that happens. -/
def handle [LinearOrder K] (s : MotionDetection K) : Event K → MotionDetection K
  | .control c => s.control c
  | .sample repeated threshold event =>
    if repeated then (s.repeatAcceleromterCallback threshold event).1
    else (s.acceleromterCallback threshold event).1

/-- How a round of monitoring comes to begin: a monitor stops at some time, and the start of a
monitor is the first thing after it that a sample could follow. -/
structure Round (K : Type) where
  before : List (Event K)
  stopped : Monitor
  quiet : List Control
  started : Monitor
  platform : Platform

/-- Where a round begins. -/
def Round.start [LinearOrder K] (r : Round K) : MotionDetection K :=
  ((r.quiet.foldl control ((r.before.foldl handle initial).stopMonitoringInner
    r.stopped)).startMonitoringInner r.platform r.started).2

/-- Some samples, up to the one of a number. -/
def receive (a : ℕ → AccelData K) (n : ℕ) (s : MotionDetection K) : MotionDetection K :=
  (List.range (n + 1)).foldl (fun s i => s.addEnergy (some (a i))) s

/-! ## What a sample adds -/

section
variable {s : MotionDetection K} {a : ℕ → AccelData K} {data : AccelData K} {n : ℕ}

/-- The first sample adds nothing, and is the one to compare with. -/
theorem addEnergy_first (h : s.hasPrevAccelData = false) :
    s.addEnergy (some data) =
      { s with
        hasPrevAccelData := true
        previousAccelData := data
        currentAccelData := data } := by
  simp [addEnergy, h, AccelData.sub]

/-- A later sample adds its distance from the one to compare with, which stays. -/
theorem addEnergy_later (h : s.hasPrevAccelData = true) :
    s.addEnergy (some data) =
      { s with
        currentAccelData := data
        energy := s.energy + data.sqDist s.previousAccelData } := by
  simp [addEnergy, h, AccelData.sqDist, AccelData.dot]

/-- The last sample is added to what the others left. -/
theorem receive_succ : s.receive a (n + 1) = (s.receive a n).addEnergy (some (a (n + 1))) := by
  rw [receive, List.range_succ, List.foldl_append]
  rfl

/-- The samples of a round add their distances from the first of them. -/
theorem receive_spec (henergy : s.energy = 0) (hprev : s.hasPrevAccelData = false) :
    (s.receive a n).energy = ∑ i ∈ Finset.range n, (a (i + 1)).sqDist (a 0) ∧
      (s.receive a n).hasPrevAccelData = true ∧ (s.receive a n).previousAccelData = a 0 := by
  induction n with
  | zero =>
    have hfirst : s.receive a 0 = s.addEnergy (some (a 0)) := rfl
    rw [hfirst, addEnergy_first hprev]
    exact ⟨henergy, rfl, rfl⟩
  | succ n ih =>
    obtain ⟨hsum, hhas, hfirst⟩ := ih
    rw [receive_succ, addEnergy_later hhas, hfirst, hsum, Finset.sum_range_succ]
    exact ⟨rfl, hhas, rfl⟩

end

/-! ## Where a round begins -/

section
variable {s : MotionDetection K} {c : Control} {p : Platform} {m : Monitor}

/-- A start resets the energy, and sets no sample to compare with. -/
theorem startMonitoringInner_spec (h : s.hasPrevAccelData = false) :
    (s.startMonitoringInner p m).2.energy = 0 ∧
      (s.startMonitoringInner p m).2.hasPrevAccelData = false := by
  unfold startMonitoringInner
  dsimp only
  split
  · exact ⟨rfl, h⟩
  · exact ⟨rfl, rfl⟩

/-- Without a sample there is none to compare with. -/
theorem control_hasPrevAccelData (h : s.hasPrevAccelData = false) :
    (s.control c).hasPrevAccelData = false := by
  cases c with
  | init m p =>
    simp only [control, init]
    split_ifs <;> exact h
  | start m p => exact (startMonitoringInner_spec h).2
  | stop m => rfl

/-- A round begins with no energy and no sample to compare with. -/
theorem Round.start_spec [LinearOrder K] (r : Round K) :
    r.start.energy = 0 ∧ r.start.hasPrevAccelData = false := by
  refine startMonitoringInner_spec ?_
  have hstop : ((r.before.foldl handle initial).stopMonitoringInner r.stopped).hasPrevAccelData =
    false := rfl
  revert hstop
  generalize (r.before.foldl handle initial).stopMonitoringInner r.stopped = s
  induction r.quiet generalizing s with
  | nil => exact id
  | cons c quiet ih => exact fun h => ih _ (control_hasPrevAccelData h)

end

/-! ## The energy of a round -/

section
variable [LinearOrder K] (r : Round K) (a : ℕ → AccelData K) (n : ℕ)

/-- The energy that consecutive samples have. -/
def consecutiveEnergy (a : ℕ → AccelData K) (n : ℕ) : K :=
  ∑ i ∈ Finset.range n, (a (i + 1)).sqDist (a i)

/-- The squares of the distances from the first sample, but for the last of them, are together twice
the inner products of the displacements of consecutive samples from the first. -/
def Balanced (a : ℕ → AccelData K) (n : ℕ) : Prop :=
  ∑ i ∈ Finset.range n, (a i).sqDist (a 0) =
    2 * ∑ i ∈ Finset.range n, ((a (i + 1)).sub (a 0)).dot ((a i).sub (a 0))

omit [LinearOrder K] in
/-- The distances of consecutive samples by those from the first. -/
theorem consecutiveEnergy_eq : consecutiveEnergy a n =
    ∑ i ∈ Finset.range n, (a (i + 1)).sqDist (a 0) + ∑ i ∈ Finset.range n, (a i).sqDist (a 0) -
      2 * ∑ i ∈ Finset.range n, ((a (i + 1)).sub (a 0)).dot ((a i).sub (a 0)) := by
  rw [consecutiveEnergy, Finset.mul_sum, ← Finset.sum_add_distrib, ← Finset.sum_sub_distrib]
  exact Finset.sum_congr rfl fun i _ => AccelData.sqDist_eq _ _ _

/-- The energy of a round is the sum of the distances from its first sample. -/
theorem receive_energy : (r.start.receive a n).energy =
    ∑ i ∈ Finset.range n, (a (i + 1)).sqDist (a 0) :=
  (receive_spec r.start_spec.1 r.start_spec.2).1

/-- The energy is that of consecutive samples after each of the samples, if and only if each of them
is as far from the first as from the one before. -/
theorem energy_always_iff :
    (∀ k ≤ n, (r.start.receive a k).energy = consecutiveEnergy a k) ↔
      ∀ i < n, (a (i + 1)).sqDist (a 0) = (a (i + 1)).sqDist (a i) := by
  simp only [receive_energy, consecutiveEnergy]
  constructor
  · intro h i hi
    have hnext := h (i + 1) hi
    rw [Finset.sum_range_succ, Finset.sum_range_succ, h i hi.le] at hnext
    exact add_left_cancel hnext
  · intro h k hk
    exact Finset.sum_congr rfl fun i hi => h i ((Finset.mem_range.1 hi).trans_le hk)

variable [IsStrictOrderedRing K]

/-- After the samples of a round the energy is that of consecutive samples if and only if they are
balanced, and after each of them if and only if each is as far from the first as from the one
before. It stays when the last sample comes again if and only if that is the first. -/
theorem energy_iff :
    ((r.start.receive a n).energy = consecutiveEnergy a n ↔ Balanced a n) ∧
      ((∀ k ≤ n, (r.start.receive a k).energy = consecutiveEnergy a k) ↔
        ∀ i < n, (a (i + 1)).sqDist (a 0) = (a (i + 1)).sqDist (a i)) ∧
      (((r.start.receive a n).addEnergy (some (a n))).energy = (r.start.receive a n).energy ↔
        a n = a 0) := by
  refine ⟨?_, energy_always_iff r a n, ?_⟩
  · rw [receive_energy, consecutiveEnergy_eq, Balanced]
    constructor <;> intro h <;> linear_combination -h
  · obtain ⟨-, hhas, hfirst⟩ := receive_spec (a := a) (n := n) r.start_spec.1 r.start_spec.2
    rw [addEnergy_later hhas, hfirst, add_eq_left, AccelData.sqDist_eq_zero]

end

/-- A round that begins with the first start of a monitor. -/
def sampleRound : Round ℚ where
  before := []
  stopped := ⟨.motion, 1⟩
  quiet := []
  started := ⟨.motion, 1⟩
  platform := samplePlatform

/-- A device that lies still has the energy of consecutive samples. -/
theorem energy_iff_still : (sampleRound.start.receive (fun _ => ⟨0, 0, 1⟩) 2).energy =
    consecutiveEnergy (fun _ => ⟨0, 0, 1⟩) 2 :=
  (energy_iff sampleRound _ 2).1.2 (by simp [Balanced, AccelData.sqDist_self, AccelData.sub,
    AccelData.dot])

/-- Not of every sequence: a device that has moved once and lies still is judged by the same
distance again. -/
theorem not_always_consecutiveEnergy : ¬ ∀ (r : Round ℚ) (a : ℕ → AccelData ℚ) (n : ℕ),
    (r.start.receive a n).energy = consecutiveEnergy a n := by
  intro h
  have hmoved := h sampleRound (fun i => if i = 0 then ⟨0, 0, 0⟩ else ⟨1, 0, 0⟩) 2
  rw [receive_energy] at hmoved
  norm_num [consecutiveEnergy, Finset.sum_range_succ, AccelData.sqDist, AccelData.sub,
    AccelData.dot] at hmoved

end MotionDetection

end DeviceStandby
