import Mathlib.Order.Filter.AtTopBot.Basic
import Mathlib.Order.Filter.Finite
import OskManager.Model.OptionsMatrix
import OskManager.Schedule.InstructorSlots
import OskManager.Schedule.WindowDifference

/-! The grid of options. With positive steps the loops come to an end; they list every slot of the
windows that is on the grid, in windows that have no minute in common each of them once. -/

namespace OSK

open Relational

/-! ### Texts -/

theorem pad2_natCast (n : ℕ) :
    (pad2 n).toList = List.replicate (2 - n.repr.length) '0' ++ Nat.toDigits 10 n := by
  have htext : toString (n : ℤ) = n.repr := rfl
  rw [pad2, htext, String.toList_append, String.toList_ofList, Nat.toList_repr]

theorem pad2_injective {m n : ℕ} (h : (pad2 m).toList = (pad2 n).toList) : m = n := by
  have hvalue (k : ℕ) : Nat.ofDigitChars 10 (pad2 k).toList 0 = k := by
    rw [pad2_natCast, Nat.ofDigitChars_append, Nat.ofDigitChars_replicate_zero, Nat.mul_zero,
      Nat.ofDigitChars_ten_toDigits]
  rw [← hvalue m, h, hvalue]

theorem colon_notMem_pad2 (n : ℕ) : ':' ∉ (pad2 n).toList := by
  rw [pad2_natCast, List.mem_append, not_or]
  refine ⟨fun h => absurd (List.eq_of_mem_replicate h) (by decide), fun h => ?_⟩
  exact absurd (Nat.isDigit_of_mem_toDigits (by decide) (by decide) h) (by decide)

theorem minutesToHHmm_injective {a b : ℤ} (ha : 0 ≤ a) (hb : 0 ≤ b)
    (h : minutesToHHmm a = minutesToHHmm b) : a = b := by
  lift a to ℕ using ha
  lift b to ℕ using hb
  have htext (n : ℕ) : (minutesToHHmm n).toList =
      (pad2 (n / 60 : ℕ)).toList ++ ':' :: (pad2 (n % 60 : ℕ)).toList := by
    have hrest : (n : ℤ).tmod 60 = ((n % 60 : ℕ) : ℤ) := Int.tmod_eq_emod_of_nonneg (by omega)
    rw [minutesToHHmm, hrest, String.toList_append, String.toList_append, List.append_assoc]
    rfl
  have hlist := congrArg String.toList h
  rw [htext, htext] at hlist
  obtain ⟨hhour, -, hminute⟩ := (List.append_cons_inj_of_notMem (colon_notMem_pad2 _)
    (colon_notMem_pad2 _)).mp hlist
  have hhour := pad2_injective hhour
  have hminute := pad2_injective hminute
  omega

/-! ### The loops end -/

theorem stepsUpTo_cons {lo hi step : ℤ} (hstep : 0 < step) (h : lo ≤ hi) :
    stepsUpTo lo hi step = lo :: stepsUpTo (lo + step) hi step := by
  have hdiv : (hi - lo) / step = (hi - (lo + step)) / step + 1 := by
    rw [← Int.add_mul_ediv_right _ _ hstep.ne', one_mul]
    congr 1
    omega
  have hnonneg : 0 ≤ (hi - lo) / step := Int.ediv_nonneg (by omega) hstep.le
  have hlength : ((hi - lo) / step + 1).toNat = ((hi - (lo + step)) / step + 1).toNat + 1 := by
    omega
  rw [stepsUpTo, hlength, List.range_succ_eq_map, List.map_cons, List.map_map, stepsUpTo]
  congr 1
  · simp
  · refine List.map_congr_left fun k _ => ?_
    simp only [Function.comp, Nat.succ_eq_add_one, Nat.cast_add, Nat.cast_one, add_mul, one_mul]
    omega

theorem flatMap_if {α β : Type} (p : α → Bool) (f : α → β) (l : List α) :
    (l.flatMap fun x => if p x = true then [f x] else []) = (l.filter p).map f := by
  induction l with
  | nil => rfl
  | cons x rest ih =>
    rw [List.flatMap_cons, ih, List.filter_cons]
    cases p x <;> rfl

/-- A loop that counts up to a bound, when its turns are enough. -/
theorem whileLoop_stepsUpTo {β : Type} {p : ℤ → Prop} [DecidablePred p] {lo hi step : ℤ}
    {body : ℤ → Option (List β)} {g : ℤ → List β} {turns : ℕ} (hstep : 0 < step)
    (hp : ∀ x, p x ↔ x ≤ hi) (hbody : ∀ x ∈ stepsUpTo lo hi step, body x = some (g x))
    (hturns : (stepsUpTo lo hi step).length < turns) :
    whileLoop p (· + step) body turns lo = some ((stepsUpTo lo hi step).flatMap g) := by
  induction turns generalizing lo with
  | zero => exact absurd hturns (Nat.not_lt_zero _)
  | succ turns ih =>
    by_cases h : lo ≤ hi
    · rw [stepsUpTo_cons hstep h] at hbody hturns ⊢
      obtain ⟨hfirst, hrest⟩ := List.forall_mem_cons.mp hbody
      exact whileLoop_turn ((hp lo).mpr h) hfirst (ih hrest (Nat.lt_of_succ_lt_succ hturns))
    · rw [(stepsUpTo_eq_nil hstep).mpr (not_le.mp h)]
      exact whileLoop_stop fun hlo => h ((hp lo).mp hlo)

section

variable {input : OptionsMatrixInput}

/-- The end times of a start, in minutes. -/
def endMinutes (input : OptionsMatrixInput) (window : TimeWindow) (start : ℤ) : List ℤ :=
  stepsUpTo (start + input.minDurationMinutes)
    (latestEnd start input.maxDurationMinutes window.stop)
    (input.endStepMinutes.getD availabilityOptionStepMinutes)

/-- The starts of a window that have an end time. -/
def startMinutes (input : OptionsMatrixInput) (window : TimeWindow) : List ℤ :=
  (stepsUpTo (ceilTo window.start input.startStepMinutes)
    (window.stop - input.minDurationMinutes) input.startStepMinutes).filter
      fun start => endMinutes input window start ≠ []

/-- The option as it is returned, from its minutes. -/
def optionTexts (input : OptionsMatrixInput) (window : TimeWindow) (start : ℤ) : OptionTexts where
  startTime := minutesToHHmm start
  endTimes := (endMinutes input window start).map minutesToHHmm

theorem endTimesLoop_ends (hend : 0 < input.endStepMinutes.getD availabilityOptionStepMinutes)
    (window : TimeWindow) (start : ℤ) : ∀ᶠ turns in Filter.atTop,
      endTimesLoop input window turns start =
        some ((endMinutes input window start).map minutesToHHmm) := by
  filter_upwards [Filter.eventually_gt_atTop (endMinutes input window start).length] with turns hlt
  rw [endTimesLoop, whileLoop_stepsUpTo hend (fun _ => Iff.rfl) (fun _ _ => rfl) hlt,
    ← List.map_eq_flatMap, endMinutes]

theorem startTimesLoop_ends (hstart : 0 < input.startStepMinutes)
    (hend : 0 < input.endStepMinutes.getD availabilityOptionStepMinutes) (window : TimeWindow) :
    ∀ᶠ turns in Filter.atTop, startTimesLoop input turns window =
      some ((startMinutes input window).map (optionTexts input window)) := by
  let starts := stepsUpTo (ceilTo window.start input.startStepMinutes)
    (window.stop - input.minDurationMinutes) input.startStepMinutes
  have hinner : ∀ᶠ turns in Filter.atTop, ∀ start ∈ starts,
      endTimesLoop input window turns start =
        some ((endMinutes input window start).map minutesToHHmm) :=
    (Filter.eventually_all_finite (List.finite_toSet starts)).mpr fun start _ =>
      endTimesLoop_ends hend window start
  filter_upwards [hinner, Filter.eventually_gt_atTop starts.length] with turns hinner hlt
  have hbody (start : ℤ) (h : start ∈ starts) : (do
      let endTimes ← endTimesLoop input window turns start
      return if endTimes ≠ [] then [{ startTime := minutesToHHmm start, endTimes }] else [] :
        Option (List OptionTexts)) =
      some (if endMinutes input window start ≠ [] then [optionTexts input window start] else []) := by
    rw [hinner start h, Option.bind_eq_bind, Option.bind_some]
    simp only [ne_eq, List.map_eq_nil_iff]
    rfl
  rw [startTimesLoop, whileLoop_stepsUpTo hstart (fun x => ?_) hbody hlt]
  · rw [startMinutes, ← flatMap_if]
    simp only [decide_eq_true_eq]
  · exact le_sub_iff_add_le.symm

theorem buildOptionsMatrix_ends (hstart : 0 < input.startStepMinutes)
    (hend : 0 < input.endStepMinutes.getD availabilityOptionStepMinutes) :
    ∀ᶠ turns in Filter.atTop, buildOptionsMatrix turns input =
      some (input.windows.flatMap fun window =>
        (startMinutes input window).map (optionTexts input window)) := by
  have hall : ∀ᶠ turns in Filter.atTop, ∀ window ∈ input.windows,
      startTimesLoop input turns window =
        some ((startMinutes input window).map (optionTexts input window)) :=
    (Filter.eventually_all_finite (List.finite_toSet input.windows)).mpr fun window _ =>
      startTimesLoop_ends hstart hend window
  filter_upwards [hall] with turns hall
  rw [buildOptionsMatrix, mapM_eq_some hall, Option.map_some, List.flatMap]

/-! ### What is on the grid -/

/-- The slot lies in a window, starts on the grid, and has an admitted length. -/
structure OnGrid (input : OptionsMatrixInput) (a b : ℤ) : Prop where
  fits : ∃ w ∈ input.windows, w.start ≤ a ∧ b ≤ w.stop
  start_step : input.startStepMinutes ∣ a
  min_le : input.minDurationMinutes ≤ b - a
  le_max : ((b - a : ℤ) : WithTop ℤ) ≤ input.maxDurationMinutes
  end_step : input.endStepMinutes.getD availabilityOptionStepMinutes ∣
    b - a - input.minDurationMinutes

/-- A multiple of the step is reached from any other one before it. -/
theorem mem_stepsUpTo_iff_dvd {lo hi step x : ℤ} (hstep : 0 < step) :
    x ∈ stepsUpTo lo hi step ↔ (lo ≤ x ∧ step ∣ x - lo) ∧ x ≤ hi := by
  rw [mem_stepsUpTo_iff hstep]
  refine and_congr_left fun _ => ⟨?_, ?_⟩
  · rintro ⟨k, rfl⟩
    have hnonneg : 0 ≤ (k : ℤ) * step := Int.mul_nonneg (Int.natCast_nonneg k) hstep.le
    exact ⟨by omega, ⟨k, by rw [mul_comm]; omega⟩⟩
  · rintro ⟨hle, k, hk⟩
    have hk0 : 0 ≤ k := by
      by_contra hneg
      have hlt := Int.mul_neg_of_pos_of_neg hstep (not_le.mp hneg)
      omega
    exact ⟨k.toNat, by rw [Int.toNat_of_nonneg hk0, mul_comm]; omega⟩

theorem le_latestEnd {start stop b : ℤ} {maxDurationMinutes : WithTop ℤ} :
    b ≤ latestEnd start maxDurationMinutes stop ↔
      ((b - start : ℤ) : WithTop ℤ) ≤ maxDurationMinutes ∧ b ≤ stop := by
  induction maxDurationMinutes using WithTop.recTopCoe with
  | top => simp [latestEnd]
  | coe m =>
    rw [WithTop.coe_le_coe]
    exact le_min_iff.trans (and_congr_left fun _ => by omega)

theorem mem_endMinutes (hend : 0 < input.endStepMinutes.getD availabilityOptionStepMinutes)
    {window : TimeWindow} {a b : ℤ} :
    b ∈ endMinutes input window a ↔ input.minDurationMinutes ≤ b - a ∧
      ((b - a : ℤ) : WithTop ℤ) ≤ input.maxDurationMinutes ∧
      input.endStepMinutes.getD availabilityOptionStepMinutes ∣ b - a - input.minDurationMinutes ∧
      b ≤ window.stop := by
  rw [endMinutes, mem_stepsUpTo_iff_dvd hend, le_latestEnd, Int.sub_sub b a]
  have hle : a + input.minDurationMinutes ≤ b ↔ input.minDurationMinutes ≤ b - a := by omega
  rw [hle]
  tauto

theorem mem_startMinutes (hstart : 0 < input.startStepMinutes) {window : TimeWindow} {a : ℤ} :
    a ∈ startMinutes input window ↔ (window.start ≤ a ∧ input.startStepMinutes ∣ a) ∧
      a + input.minDurationMinutes ≤ window.stop ∧ endMinutes input window a ≠ [] := by
  rw [startMinutes, List.mem_filter, mem_stepsUpTo_iff_dvd hstart, decide_eq_true_eq,
    le_sub_iff_add_le, and_assoc]
  refine and_congr_left fun _ => ⟨fun ⟨hle, hdvd⟩ => ?_, fun ⟨hle, hdvd⟩ => ?_⟩
  · exact ⟨(le_ceilTo hstart).trans hle, (Int.dvd_iff_dvd_of_dvd_sub hdvd).mpr (dvd_ceilTo _ _)⟩
  · exact ⟨ceilTo_le hstart hdvd hle, Int.dvd_sub hdvd (dvd_ceilTo _ _)⟩

theorem nodup_startMinutes (hstart : 0 < input.startStepMinutes) (window : TimeWindow) :
    (startMinutes input window).Nodup := (nodup_stepsUpTo hstart).filter _

theorem start_mem_minutes (hmin : 0 < input.minDurationMinutes) (hstart : 0 < input.startStepMinutes)
    {window : TimeWindow} {a : ℤ} (h : a ∈ startMinutes input window) : a ∈ window.minutes := by
  obtain ⟨⟨hle, -⟩, hroom, -⟩ := (mem_startMinutes hstart).mp h
  rw [TimeWindow.minutes, Set.mem_Ico]
  omega

theorem disjoint_starts (hmin : 0 < input.minDurationMinutes) (hstart : 0 < input.startStepMinutes)
    {w w' : TimeWindow} (hdisjoint : Disjoint w.minutes w'.minutes) :
    (startMinutes input w).Disjoint (startMinutes input w') := fun _ ha ha' =>
  Set.disjoint_left.mp hdisjoint (start_mem_minutes hmin hstart ha)
    (start_mem_minutes hmin hstart ha')

theorem listed_iff_onGrid (hstart : 0 < input.startStepMinutes)
    (hend : 0 < input.endStepMinutes.getD availabilityOptionStepMinutes) {a b : ℤ} :
    (∃ w ∈ input.windows, a ∈ startMinutes input w ∧ b ∈ endMinutes input w a) ↔
      OnGrid input a b := by
  refine ⟨?_, ?_⟩
  · rintro ⟨w, hw, ha, hb⟩
    obtain ⟨⟨hle, hdvd⟩, -, -⟩ := (mem_startMinutes hstart).mp ha
    obtain ⟨hshort, hlong, hstep, hstop⟩ := (mem_endMinutes hend).mp hb
    exact ⟨⟨w, hw, hle, hstop⟩, hdvd, hshort, hlong, hstep⟩
  · rintro ⟨⟨w, hw, hle, hstop⟩, hdvd, hshort, hlong, hstep⟩
    have hb : b ∈ endMinutes input w a := (mem_endMinutes hend).mpr ⟨hshort, hlong, hstep, hstop⟩
    refine ⟨w, hw, (mem_startMinutes hstart).mpr ⟨⟨hle, hdvd⟩, ?_, ?_⟩, hb⟩
    · omega
    · exact List.ne_nil_of_mem hb

/-- The slots that are listed, in minutes. -/
def gridSlots (input : OptionsMatrixInput) : List (ℤ × ℤ) :=
  input.windows.flatMap fun w => (startMinutes input w).flatMap fun a =>
    (endMinutes input w a).map fun b => (a, b)

theorem mem_gridSlots (hstart : 0 < input.startStepMinutes)
    (hend : 0 < input.endStepMinutes.getD availabilityOptionStepMinutes) {a b : ℤ} :
    (a, b) ∈ gridSlots input ↔ OnGrid input a b := by
  rw [← listed_iff_onGrid hstart hend, gridSlots]
  simp only [List.mem_flatMap, List.mem_map, Prod.mk.injEq]
  refine exists_congr fun w => and_congr_right fun _ => ⟨?_, ?_⟩
  · rintro ⟨a', ha, b', hb, rfl, rfl⟩
    exact ⟨ha, hb⟩
  · exact fun ⟨ha, hb⟩ => ⟨a, ha, b, hb, rfl, rfl⟩

theorem nodup_gridSlots (hmin : 0 < input.minDurationMinutes)
    (hstart : 0 < input.startStepMinutes)
    (hend : 0 < input.endStepMinutes.getD availabilityOptionStepMinutes)
    (hdisjoint : input.windows.Pairwise fun w w' => Disjoint w.minutes w'.minutes) :
    (gridSlots input).Nodup := by
  have hfirst {w : TimeWindow} {a : ℤ} {p : ℤ × ℤ}
      (h : p ∈ (endMinutes input w a).map fun b => (a, b)) : p.1 = a := by
    obtain ⟨b, -, rfl⟩ := List.mem_map.mp h
    rfl
  refine List.nodup_flatMap.mpr ⟨fun w _ => List.nodup_flatMap.mpr ⟨fun a _ => ?_, ?_⟩, ?_⟩
  · exact (nodup_stepsUpTo hend).map fun b b' h => congrArg Prod.snd h
  · refine (nodup_startMinutes hstart w).imp fun hne p hp hp' => ?_
    exact hne ((hfirst hp).symm.trans (hfirst hp'))
  · refine hdisjoint.imp fun hw p hp hp' => ?_
    obtain ⟨a, ha, hp⟩ := List.mem_flatMap.mp hp
    obtain ⟨a', ha', hp'⟩ := List.mem_flatMap.mp hp'
    exact disjoint_starts hmin hstart hw ha ((hfirst hp).symm.trans (hfirst hp') ▸ ha')

theorem OnGrid.nonneg {a b : ℤ} (h : OnGrid input a b) (hmin : 0 < input.minDurationMinutes)
    (hwindows : ∀ w ∈ input.windows, 0 ≤ w.start) : 0 ≤ a ∧ 0 ≤ b := by
  obtain ⟨w, hw, hle, -⟩ := h.fits
  have hday := hwindows w hw
  have hshort := h.min_le
  omega

end

/-! ### What is listed -/

/-- The slots of the options, one for each end time. -/
def slotTexts (options : List OptionTexts) : List (String × String) :=
  options.flatMap fun o => o.endTimes.map fun stop => (o.startTime, stop)

theorem slotTexts_eq (input : OptionsMatrixInput) :
    slotTexts (input.windows.flatMap fun w => (startMinutes input w).map (optionTexts input w)) =
      (gridSlots input).map fun p => (minutesToHHmm p.1, minutesToHHmm p.2) := by
  simp only [slotTexts, gridSlots, List.flatMap_assoc, List.map_flatMap, List.flatMap_map,
    List.map_map, optionTexts]
  rfl

/-- With positive steps and a positive least duration the function returns. It lists the slots on
the grid and no others, each slot and each start once, and every start with an end. -/
theorem optionsMatrix_exact (input : OptionsMatrixInput)
    (hwindows : ∀ w ∈ input.windows, 0 ≤ w.start)
    (hdisjoint : input.windows.Pairwise fun w w' => Disjoint w.minutes w'.minutes)
    (hmin : 0 < input.minDurationMinutes) (hstart : 0 < input.startStepMinutes)
    (hend : 0 < input.endStepMinutes.getD availabilityOptionStepMinutes) :
    ∃ options, (∃ enough, ∀ turns ≥ enough, buildOptionsMatrix turns input = some options) ∧
      (∀ p ∈ slotTexts options, ∃ a b : ℕ, p = (minutesToHHmm a, minutesToHHmm b)) ∧
      (∀ a b : ℕ, (minutesToHHmm a, minutesToHHmm b) ∈ slotTexts options ↔ OnGrid input a b) ∧
      (slotTexts options).Nodup ∧ (options.map OptionTexts.startTime).Nodup ∧
      ∀ o ∈ options, o.endTimes ≠ [] := by
  have hslot {p : ℤ × ℤ} (hp : p ∈ gridSlots input) :
      OnGrid input p.1 p.2 ∧ 0 ≤ p.1 ∧ 0 ≤ p.2 := by
    have hgrid := (mem_gridSlots hstart hend).mp hp
    exact ⟨hgrid, hgrid.nonneg hmin hwindows⟩
  refine ⟨_, Filter.eventually_atTop.mp (buildOptionsMatrix_ends hstart hend), ?_⟩
  rw [slotTexts_eq]
  refine ⟨fun q hq => ?_, fun a b => ⟨fun h => ?_, fun h => ?_⟩, ?_, ?_, fun o ho => ?_⟩
  · obtain ⟨⟨a, b⟩, hp, rfl⟩ := List.mem_map.mp hq
    obtain ⟨-, ha, hb⟩ := hslot hp
    exact ⟨a.toNat, b.toNat, by rw [Int.toNat_of_nonneg ha, Int.toNat_of_nonneg hb]⟩
  · obtain ⟨p, hp, htexts⟩ := List.mem_map.mp h
    obtain ⟨hgrid, hp1, hp2⟩ := hslot hp
    rw [Prod.mk.injEq] at htexts
    rw [← minutesToHHmm_injective hp1 (Int.natCast_nonneg a) htexts.1,
      ← minutesToHHmm_injective hp2 (Int.natCast_nonneg b) htexts.2]
    exact hgrid
  · exact List.mem_map.mpr ⟨(a, b), (mem_gridSlots hstart hend).mpr h, rfl⟩
  · refine (nodup_gridSlots hmin hstart hend hdisjoint).map_on fun p hp q hq htexts => ?_
    obtain ⟨-, hp1, hp2⟩ := hslot hp
    obtain ⟨-, hq1, hq2⟩ := hslot hq
    rw [Prod.mk.injEq] at htexts
    exact Prod.ext (minutesToHHmm_injective hp1 hq1 htexts.1)
      (minutesToHHmm_injective hp2 hq2 htexts.2)
  · have hstarts : ((input.windows.flatMap fun w => (startMinutes input w).map
        (optionTexts input w)).map OptionTexts.startTime) =
        (input.windows.flatMap (startMinutes input)).map minutesToHHmm := by
      simp only [List.map_flatMap, List.map_map]
      rfl
    have hnonneg {a : ℤ} (ha : a ∈ input.windows.flatMap (startMinutes input)) : 0 ≤ a := by
      obtain ⟨w, hw, ha⟩ := List.mem_flatMap.mp ha
      exact (hwindows w hw).trans ((mem_startMinutes hstart).mp ha).1.1
    rw [hstarts]
    refine List.Nodup.map_on (fun a ha b hb => minutesToHHmm_injective (hnonneg ha) (hnonneg hb))
      (List.nodup_flatMap.mpr ⟨fun w _ => nodup_startMinutes hstart w, ?_⟩)
    exact hdisjoint.imp fun hw => disjoint_starts hmin hstart hw
  · obtain ⟨w, -, ho⟩ := List.mem_flatMap.mp ho
    obtain ⟨a, ha, rfl⟩ := List.mem_map.mp ho
    rw [optionTexts, ne_eq, List.map_eq_nil_iff]
    exact ((mem_startMinutes hstart).mp ha).2.2

/-- The options of a day as texts. -/
def ScheduleAvailabilityOption.texts (o : ScheduleAvailabilityOption) : OptionTexts where
  startTime := minutesToHHmm o.startTime
  endTimes := o.endTimes.map minutesToHHmm

/-- The windows and the durations of a response, with the default step of the ends. -/
def ScheduleDurationPolicy.matrix (policy : ScheduleDurationPolicy) (windows : List TimeWindow)
    (startStepMinutes : ℤ) : OptionsMatrixInput where
  windows
  minDurationMinutes := policy.minDurationMinutes
  maxDurationMinutes := policy.maxDurationMinutes
  startStepMinutes

/-- The options of the responses are those of the loops. -/
theorem buildScheduleAvailabilityOptions_ends (windows : List TimeWindow)
    (policy : ScheduleDurationPolicy) {startStepMinutes : ℤ} (hstart : 0 < startStepMinutes) :
    ∀ᶠ turns in Filter.atTop, buildOptionsMatrix turns (policy.matrix windows startStepMinutes) =
      some ((buildScheduleAvailabilityOptions windows policy startStepMinutes).map
        ScheduleAvailabilityOption.texts) := by
  have hend : 0 < (policy.matrix windows startStepMinutes).endStepMinutes.getD
      availabilityOptionStepMinutes := show (0 : ℤ) < availabilityOptionStepMinutes by decide
  filter_upwards [buildOptionsMatrix_ends hstart hend] with turns hturns
  rw [hturns, buildScheduleAvailabilityOptions, List.map_flatMap]
  congr 2
  funext window
  rw [optionsInWindow, List.filter_map, List.map_map]
  rfl

/-- A morning that begins off the grid and an hour in the afternoon, without a longest duration. -/
def morningAndAfternoon : OptionsMatrixInput where
  windows := [⟨485, 605⟩, ⟨780, 840⟩]
  minDurationMinutes := 45
  maxDurationMinutes := ⊤
  startStepMinutes := 30

/-- A slot of an hour in the morning is listed. -/
theorem optionsMatrix_exact_morning : ∃ turns options,
    buildOptionsMatrix turns morningAndAfternoon = some options ∧
      (minutesToHHmm (510 : ℕ), minutesToHHmm (570 : ℕ)) ∈ slotTexts options := by
  obtain ⟨options, ⟨enough, hends⟩, -, hiff, -⟩ := optionsMatrix_exact morningAndAfternoon
    (by decide) (by
      simp only [morningAndAfternoon, TimeWindow.minutes, List.pairwise_cons, List.mem_singleton,
        forall_eq, Set.disjoint_left, Set.mem_Ico, List.not_mem_nil, IsEmpty.forall_iff,
        implies_true, List.Pairwise.nil, and_true]
      omega) (by decide) (by decide) (by decide)
  refine ⟨enough, options, hends enough le_rfl, (hiff 510 570).mpr ⟨?_, ?_, ?_, le_top, ?_⟩⟩
  · exact ⟨⟨485, 605⟩, by decide, by decide, by decide⟩
  · exact ⟨17, by decide⟩
  · decide
  · exact ⟨1, by decide⟩

end OSK
