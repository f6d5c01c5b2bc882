/-
What `StoreAlarmToSpiFlash` keeps in a directory over a run of stores.

- `Holds`: the files are those of the days that are kept, each with the page of its day;
- `Holds.store`: one more store, on a day that is not before the others;
- `storeAll_holds`: a run, in every directory;
- `day_files`: one file for each day that is kept, with the alarms of its last page and their number;
- `alarms_lost`: runs that lose alarms.
-/
import DataConcentrator.History.Store
import DataConcentrator.Lib.DayBook

namespace DataConcentrator.History

open Gregorian DayBook

/-! ## Pages -/

/-- a day whose file goes at the next store on the day `today` -/
def Expired (stack : ℕ → UInt8) (today d : Date) : Prop := getDays stack d + 30 ≤ getDays stack today

/-- a day with an alarm, not expired at the last one -/
def Kept (stack : ℕ → UInt8) (stores : List Store) (d : Date) : Prop :=
  Live (Expired stack) (stores.map Store.calendar) d

/-- the lines of the alarms of a day, in order -/
def linesOf (stores : List Store) (d : Date) : List (List UInt8) :=
  (stores.filter fun s => s.calendar = d).map fun s => alarmLine s.alarm_report

/-- the lines since the last page of 255 lines -/
def pageOf (stores : List Store) (d : Date) : List (List UInt8) := held 255 (linesOf stores d)

/-- the file of a day -/
def fileOf (stores : List Store) (d : Date) : Entry :=
  alarmFile (pageOf stores d).length (todayAt d) (pageOf stores d).flatten

theorem linesOf_concat (stores : List Store) (s : Store) (d : Date) :
    linesOf (stores ++ [s]) d = linesOf stores d ++ if s.calendar = d then [alarmLine s.alarm_report] else [] := by
  rw [linesOf, List.filter_append, List.map_append, List.filter_singleton]
  by_cases h : s.calendar = d <;> simp [h, linesOf]

theorem pageOf_concat_self (stores : List Store) (s : Store) :
    pageOf (stores ++ [s]) s.calendar = turn 255 (pageOf stores s.calendar) (alarmLine s.alarm_report) := by
  rw [pageOf, linesOf_concat, if_pos rfl, held_concat]
  rfl

theorem pageOf_concat_of_ne (stores : List Store) {s : Store} {d : Date} (h : s.calendar ≠ d) :
    pageOf (stores ++ [s]) d = pageOf stores d := by
  rw [pageOf, linesOf_concat, if_neg h, List.append_nil, pageOf]

theorem length_pageOf_le (stores : List Store) (d : Date) : (pageOf stores d).length ≤ 255 :=
  length_held_le (by decide) _

theorem linesOf_ne_nil_iff {stores : List Store} {d : Date} :
    linesOf stores d ≠ [] ↔ d ∈ stores.map Store.calendar := by
  rw [linesOf, ne_eq, List.map_eq_nil_iff, List.filter_eq_nil_iff, List.mem_map]
  simp

/-! ## One store -/

/-- the files of a directory after these stores -/
structure Holds (stack : ℕ → UInt8) (stores : List Store) (dir : List Entry) : Prop where
  nodup : dir.Nodup
  mem : ∀ e, e ∈ dir ↔ ∃ d, Kept stack stores d ∧ e = fileOf stores d

/-- stores on days of the names, and a day that comes after them -/
structure Before (stores : List Store) (t : Date) : Prop where
  dates : ∀ s ∈ stores, Recordable s.calendar
  today : Recordable t
  ordered : ∀ s ∈ stores, s.calendar.ordinal ≤ t.ordinal

section Step

variable {stack : ℕ → UInt8} {stores : List Store} {s : Store} {t d : Date}

theorem Kept.exists_store (h : Kept stack stores d) : ∃ s ∈ stores, s.calendar = d := List.mem_map.1 h.1

theorem Before.recordable (hb : Before stores t) (h : Kept stack stores d) : Recordable d := by
  obtain ⟨s, hs, rfl⟩ := h.exists_store
  exact hb.dates s hs

theorem Before.ordinal_le (hb : Before stores t) (h : Kept stack stores d) : d.ordinal ≤ t.ordinal := by
  obtain ⟨s, hs, rfl⟩ := h.exists_store
  exact hb.ordered s hs

/-- the walk deletes the expired days -/
theorem Before.stale_iff (hb : Before stores t) (h : Kept stack stores d) :
    StaleAlarm stack (todayAt t) (fileOf stores d).fname ↔ Expired stack t d := by
  have hd := hb.recordable h
  have hmono := getDays_mono stack hd.toInCentury hb.today.toInCentury (hb.ordinal_le h)
  have hname := alarmFileOf_alarmFile hd.toInCentury (pageOf stores d).length (pageOf stores d).flatten
  rw [fileOf, History.stale_iff stack hd.toInCentury hb.today.toInCentury hd.from2020 hname, Expired]
  omega

theorem Before.ofToday_iff (hb : Before stores t) (h : Kept stack stores d) (hrecent : ¬ Expired stack t d) :
    OfToday (todayAt t) (fileOf stores d).fname ↔ d = t :=
  History.ofToday_iff stack (hb.recordable h) hb.today.toInCentury (hb.ordinal_le h) (Nat.lt_of_not_le hrecent) _ _

theorem recordNum_fileOf (stores : List Store) (d : Date) :
    recordNum (fileOf stores d).fname = (pageOf stores d).length :=
  recordNum_alarmFile (length_pageOf_le stores d) _ _

theorem not_expired_self (stack : ℕ → UInt8) (t : Date) : ¬ Expired stack t t := by
  rw [Expired]
  omega

/-- today is kept once it has an alarm -/
theorem Before.kept_today_iff (stack : ℕ → UInt8) (hb : Before stores t) :
    Kept stack stores t ↔ pageOf stores t ≠ [] := by
  constructor
  · exact fun h => held_ne_nil 255 (linesOf_ne_nil_iff.2 h.1)
  · intro hpage
    have hlines : linesOf stores t ≠ [] := fun hnil => hpage (by rw [pageOf, hnil]; rfl)
    refine ⟨linesOf_ne_nil_iff.1 hlines, fun last hlast hgone => ?_⟩
    obtain ⟨s, hs, rfl⟩ := List.mem_map.1 (List.mem_of_getLast? hlast)
    have hmono := getDays_mono stack (hb.dates s hs).toInCentury hb.today.toInCentury (hb.ordered s hs)
    rw [Expired] at hgone
    omega

/-! ### The walk -/

/-- the page the line goes to -/
def basePage (stores : List Store) (t : Date) : List (List UInt8) :=
  if (pageOf stores t).length = 255 then [] else pageOf stores t

theorem length_basePage_lt (stores : List Store) (t : Date) : (basePage stores t).length < 255 := by
  have hle := length_pageOf_le stores t
  rw [basePage]
  split_ifs with hfull
  · exact Nat.zero_lt_succ _
  · omega

theorem turn_eq (stores : List Store) (t : Date) (line : List UInt8) :
    turn 255 (pageOf stores t) line = basePage stores t ++ [line] := by
  rw [turn, basePage]
  split_ifs <;> rfl

variable {dir : List Entry}

theorem Holds.mem_files (h : Holds stack stores dir) (hb : Before stores t) (e : Entry) :
    e ∈ (storeScan stack (todayAt t) dir).2 ↔
      ∃ d, (Kept stack stores d ∧ ¬ Expired stack t d) ∧ ¬ (d = t ∧ (pageOf stores d).length = 255) ∧
        e = fileOf stores d := by
  rw [mem_storeScan, h.mem]
  constructor
  · rintro ⟨⟨d, hkept, rfl⟩, hstale, hfull⟩
    have hrecent := mt (hb.stale_iff hkept).2 hstale
    refine ⟨d, ⟨hkept, hrecent⟩, fun ⟨ht, hlen⟩ => hfull ⟨(hb.ofToday_iff hkept hrecent).2 ht, ?_⟩, rfl⟩
    rw [recordNum_fileOf, hlen]
  · rintro ⟨d, ⟨hkept, hrecent⟩, hfull, rfl⟩
    refine ⟨⟨d, hkept, rfl⟩, mt (hb.stale_iff hkept).1 hrecent, fun ⟨ht, hlen⟩ => hfull ⟨?_, ?_⟩⟩
    · exact (hb.ofToday_iff hkept hrecent).1 ht
    · rw [← recordNum_fileOf, hlen]

/-- the number the walk finds -/
theorem Holds.record_num (h : Holds stack stores dir) (hb : Before stores t) :
    (storeScan stack (todayAt t) dir).1 = (basePage stores t).length := by
  have htoday : ∀ e ∈ dir, ¬ StaleAlarm stack (todayAt t) e.fname → OfToday (todayAt t) e.fname →
      e = fileOf stores t := by
    intro e he hstale hof
    obtain ⟨d, hkept, rfl⟩ := (h.mem e).1 he
    rw [(hb.ofToday_iff hkept (mt (hb.stale_iff hkept).2 hstale)).1 hof]
  have hnum : ∀ e ∈ dir, ¬ StaleAlarm stack (todayAt t) e.fname → OfToday (todayAt t) e.fname →
      recordNum e.fname = (pageOf stores t).length := by
    intro e he hstale hof
    rw [htoday e he hstale hof, recordNum_fileOf]
  rw [storeScan_num stack (todayAt t) hnum]
  split_ifs with hex hfull
  · rw [basePage, if_pos hfull, List.length_nil]
  · rw [basePage, if_neg hfull]
  · -- no file of today: no alarm of today
    have hnone : pageOf stores t = [] := by
      by_contra hpage
      have hkept := (hb.kept_today_iff stack).2 hpage
      have hrecent := not_expired_self stack t
      have hof := (hb.ofToday_iff hkept hrecent).2 rfl
      exact hex ⟨_, (h.mem _).2 ⟨t, hkept, rfl⟩, mt (hb.stale_iff hkept).1 hrecent, hof⟩
    rw [basePage, hnone]
    rfl

/-! ### The file of today -/

theorem Holds.mem_files_today_iff (h : Holds stack stores dir) (hb : Before stores t) :
    fileOf stores t ∈ (storeScan stack (todayAt t) dir).2 ↔ basePage stores t ≠ [] := by
  rw [basePage]
  constructor
  · intro he
    obtain ⟨d, ⟨hkept, -⟩, hfull, heq⟩ := (h.mem_files hb _).1 he
    have hname := congrArg Entry.name heq
    rw [fileOf, fileOf, alarmFile_name, alarmFile_name] at hname
    obtain rfl := fileName_inj hb.today.toInCentury (hb.recordable hkept).toInCentury hname
    rw [if_neg fun hlen => hfull ⟨rfl, hlen⟩]
    exact (hb.kept_today_iff stack).1 hkept
  · intro hbase
    have hfull : (pageOf stores t).length ≠ 255 := fun hlen => hbase (if_pos hlen)
    rw [if_neg hfull] at hbase
    have hkept := (hb.kept_today_iff stack).2 hbase
    exact (h.mem_files hb _).2 ⟨t, ⟨hkept, not_expired_self stack t⟩, fun hlen => hfull hlen.2, rfl⟩

theorem basePage_eq (hbase : basePage stores t ≠ []) : basePage stores t = pageOf stores t := by
  rw [basePage] at hbase ⊢
  split_ifs with hfull
  · exact absurd (if_pos hfull) hbase
  · rfl

/-- a file that stays has the name that is opened exactly when it is the file of today -/
theorem Holds.name_eq_iff (h : Holds stack stores dir) (hb : Before stores t) {e : Entry}
    (he : e ∈ (storeScan stack (todayAt t) dir).2) :
    e.name = fileName (basePage stores t).length (todayAt t) ↔ e = fileOf stores t := by
  constructor
  · intro hname
    obtain ⟨d, ⟨hkept, -⟩, -, rfl⟩ := (h.mem_files hb e).1 he
    rw [fileOf, alarmFile_name] at hname
    rw [fileName_inj (hb.recordable hkept).toInCentury hb.today.toInCentury hname]
  · rintro rfl
    rw [basePage_eq ((h.mem_files_today_iff hb).1 he), fileOf, alarmFile_name]

/-- what is in the file that is opened -/
theorem Holds.content (h : Holds stack stores dir) (hb : Before stores t) :
    ((storeScan stack (todayAt t) dir).2.find? fun e => e.name = fileName (basePage stores t).length (todayAt t)).elim []
      Entry.content = (basePage stores t).flatten := by
  cases hfind : (storeScan stack (todayAt t) dir).2.find? fun e => e.name = fileName (basePage stores t).length (todayAt t) with
  | some e =>
    have he := List.mem_of_find?_eq_some hfind
    have htoday := (h.name_eq_iff hb he).1 (by simpa using List.find?_some hfind)
    rw [htoday] at he
    rw [basePage_eq ((h.mem_files_today_iff hb).1 he), htoday]
    rfl
  | none =>
    have hbase : basePage stores t = [] := by
      by_contra hne
      have he := (h.mem_files_today_iff hb).2 hne
      have hname := List.find?_eq_none.1 hfind _ he
      rw [decide_eq_true_iff, h.name_eq_iff hb he] at hname
      exact hname rfl
    rw [hbase]
    rfl

/-- the files that stay, but for the one that is opened -/
def othersOf (stack : ℕ → UInt8) (stores : List Store) (t : Date) (dir : List Entry) : List Entry :=
  (storeScan stack (todayAt t) dir).2.filter fun e => e.name ≠ fileName (basePage stores t).length (todayAt t)

/-- they are the files of the days before -/
theorem Holds.mem_others (h : Holds stack stores dir) (hb : Before stores t) (e : Entry) :
    e ∈ othersOf stack stores t dir ↔
      ∃ d, (Kept stack stores d ∧ ¬ Expired stack t d) ∧ d ≠ t ∧ e = fileOf stores d := by
  rw [othersOf, List.mem_filter, decide_eq_true_iff]
  constructor
  · rintro ⟨he, hname⟩
    rw [ne_eq, h.name_eq_iff hb he] at hname
    obtain ⟨d, hrecent, -, rfl⟩ := (h.mem_files hb e).1 he
    exact ⟨d, hrecent, fun ht => hname (ht ▸ rfl), rfl⟩
  · rintro ⟨d, hrecent, hne, rfl⟩
    refine ⟨(h.mem_files hb _).2 ⟨d, hrecent, fun ht => hne ht.1, rfl⟩, fun hname => hne ?_⟩
    rw [fileOf, alarmFile_name] at hname
    exact fileName_inj (hb.recordable hrecent.1).toInCentury hb.today.toInCentury hname

/-- **One store.** No file has the new name, and the file of today gets it. -/
theorem Holds.writeAlarm_eq (h : Holds stack stores dir) (hb : Before stores t) (line : List UInt8) :
    writeAlarm stack (todayAt t) line dir = othersOf stack stores t dir ++
      [alarmFile ((basePage stores t).length + 1) (todayAt t) ((basePage stores t).flatten ++ line)] := by
  have hroom : ¬ (basePage stores t).length + 1 > 0xFF := Nat.not_lt.2 (length_basePage_lt stores t)
  have hfree : ((othersOf stack stores t dir).any
      fun e => e.name = fileName ((basePage stores t).length + 1) (todayAt t)) = false := by
    rw [List.any_eq_false]
    intro e he hname
    obtain ⟨d, hrecent, hne, rfl⟩ := (h.mem_others hb e).1 he
    rw [decide_eq_true_iff, fileOf, alarmFile_name] at hname
    exact hne (fileName_inj (hb.recordable hrecent.1).toInCentury hb.today.toInCentury hname)
  rw [othersOf] at hfree ⊢
  simp only [writeAlarm, h.record_num hb, h.content hb, if_neg hroom, hfree]
  rfl

theorem Holds.nodup_others (h : Holds stack stores dir) (t : Date) : (othersOf stack stores t dir).Nodup := by
  classical
  rw [othersOf, storeScan_files]
  exact (h.nodup.sublist List.filter_sublist).sublist List.filter_sublist

/-- which days are kept after a store -/
theorem Before.kept_concat_iff (stack : ℕ → UInt8) (hb : Before stores s.calendar) (d : Date) :
    Kept stack (stores ++ [s]) d ↔ d = s.calendar ∨ Kept stack stores d ∧ ¬ Expired stack s.calendar d := by
  rw [Kept, List.map_append]
  refine live_append_iff _ (fun last hlast hgone => ?_) (not_expired_self stack s.calendar)
  obtain ⟨x, hx, rfl⟩ := List.mem_map.1 (List.mem_of_getLast? hlast)
  exact hgone.trans (getDays_mono stack (hb.dates x hx).toInCentury hb.today.toInCentury (hb.ordered x hx))

end Step

theorem Holds.store {stack : ℕ → UInt8} {stores : List Store} {dir : List Entry} {s : Store}
    (h : Holds stack stores dir) (hb : Before stores s.calendar) :
    Holds stack (stores ++ [s]) (storeIn stack dir s) := by
  have hnew : fileOf (stores ++ [s]) s.calendar = alarmFile ((basePage stores s.calendar).length + 1) (todayAt s.calendar)
      ((basePage stores s.calendar).flatten ++ alarmLine s.alarm_report) := by
    rw [fileOf, pageOf_concat_self, turn_eq, List.length_append, List.flatten_append, List.length_singleton,
      List.flatten_singleton]
  have hsame : ∀ d, d ≠ s.calendar → fileOf (stores ++ [s]) d = fileOf stores d := by
    intro d hd
    rw [fileOf, fileOf, pageOf_concat_of_ne stores (Ne.symm hd)]
  have hperm : (storeIn stack dir s).Perm
      (othersOf stack stores s.calendar dir ++ [fileOf (stores ++ [s]) s.calendar]) := by
    rw [hnew, ← h.writeAlarm_eq hb]
    exact s.order.perm _
  constructor
  · rw [hperm.nodup_iff]
    refine (h.nodup_others s.calendar).append (List.nodup_singleton _) ?_
    rw [List.disjoint_singleton, h.mem_others hb, hnew]
    rintro ⟨d, hrecent, hne, heq⟩
    have hname := congrArg Entry.name heq
    rw [fileOf, alarmFile_name, alarmFile_name] at hname
    exact hne (fileName_inj hb.today.toInCentury (hb.recordable hrecent.1).toInCentury hname).symm
  · intro e
    rw [hperm.mem_iff, List.mem_append, h.mem_others hb, List.mem_singleton]
    simp only [hb.kept_concat_iff stack]
    constructor
    · rintro (⟨d, hrecent, hne, rfl⟩ | rfl)
      · exact ⟨d, Or.inr hrecent, (hsame d hne).symm⟩
      · exact ⟨s.calendar, Or.inl rfl, rfl⟩
    · rintro ⟨d, hd, rfl⟩
      by_cases heq : d = s.calendar
      · exact Or.inr (heq ▸ rfl)
      · exact Or.inl ⟨d, hd.resolve_left heq, heq, hsame d heq⟩

/-! ## Runs -/

/-- stores on days that do not go back, of alarms whose lines fit -/
structure InOrder (stores : List Store) : Prop where
  dates : ∀ s ∈ stores, Recordable s.calendar
  ordered : stores.Pairwise fun a b => a.calendar.ordinal ≤ b.calendar.ordinal
  lines : ∀ s ∈ stores, FitsWrBuf s.alarm_report

theorem InOrder.before {stores : List Store} {s : Store} (h : InOrder (stores ++ [s])) (path : String) :
    Before (stores.filter fun x => x.path = path) s.calendar where
  dates x hx := h.dates x (List.mem_append_left _ (List.mem_of_mem_filter hx))
  today := h.dates s (by simp)
  ordered x hx := (List.pairwise_append.1 h.ordered).2.2 x (List.mem_of_mem_filter hx) s (by simp)

theorem InOrder.init {stores : List Store} {s : Store} (h : InOrder (stores ++ [s])) : InOrder stores where
  dates x hx := h.dates x (List.mem_append_left _ hx)
  ordered := (List.pairwise_append.1 h.ordered).1
  lines x hx := h.lines x (List.mem_append_left _ hx)

/-- after a run, in every directory -/
theorem storeAll_holds (stack : ℕ → UInt8) {stores : List Store} (h : InOrder stores) :
    ∃ disk, storeAll stack stores = some disk ∧
      ∀ path, Holds stack (stores.filter fun s => s.path = path) (disk path) := by
  induction stores using List.reverseRecOn with
  | nil =>
    refine ⟨fun _ => [], rfl, fun path => ⟨List.nodup_nil, fun e => ?_⟩⟩
    simp [Kept, Live]
  | append_singleton stores s ih =>
    obtain ⟨disk, hdisk, hholds⟩ := ih h.init
    have hfits := h.lines s (by simp)
    refine ⟨Function.update disk s.path (storeIn stack (disk s.path) s), ?_, fun path => ?_⟩
    · rw [storeAll_concat, hdisk, Option.bind_some, storeAlarmToSpiFlash, if_pos hfits]
    · rw [List.filter_append, List.filter_singleton]
      by_cases hpath : s.path = path
      · subst hpath
        simp only [Function.update_self, decide_true, cond_true]
        exact (hholds s.path).store (h.before s.path)
      · simp only [Function.update_of_ne (Ne.symm hpath), hpath, decide_false, cond_false, List.append_nil]
        exact hholds path

/-! ## One file for each day -/

/-- a file of the day, with these lines and their number -/
structure DayFile (lines : List (List UInt8)) (d : Date) (e : Entry) : Prop where
  name : AlarmFileOf d e.fname
  content : e.content = lines.flatten
  num : recordNum e.fname = lines.length

/-- the last of the pages of 255 lines -/
def lastPage (lines : List (List UInt8)) : List (List UInt8) := lines.drop ((lines.length - 1) / 255 * 255)

/-- one file for each day that is kept, and no others -/
structure DayFiles (stack : ℕ → UInt8) (stores : List Store) (dir : List Entry) : Prop where
  nodup : dir.Nodup
  one : ∀ d, Kept stack stores d →
    ∃ e ∈ dir, DayFile (lastPage (linesOf stores d)) d e ∧ ∀ e' ∈ dir, AlarmFileOf d e'.fname → e' = e
  only : ∀ e ∈ dir, ∃ d, Kept stack stores d ∧ AlarmFileOf d e.fname

theorem AlarmFileOf.day_inj {d t : Date} (hd : InCentury d) (ht : InCentury t) {fname : ℕ → UInt8}
    (h : AlarmFileOf d fname) (h' : AlarmFileOf t fname) : d = t := dayText_inj hd ht (h.day.symm.trans h'.day)

theorem Holds.dayFiles {stack : ℕ → UInt8} {stores : List Store} {dir : List Entry} (h : Holds stack stores dir)
    (hdates : ∀ s ∈ stores, Recordable s.calendar) : DayFiles stack stores dir := by
  have hname : ∀ {d}, Kept stack stores d → InCentury d ∧ AlarmFileOf d (fileOf stores d).fname := by
    intro d hkept
    obtain ⟨s, hs, rfl⟩ := hkept.exists_store
    have hd := (hdates s hs).toInCentury
    exact ⟨hd, alarmFileOf_alarmFile hd _ _⟩
  refine ⟨h.nodup, fun d hkept => ?_, fun e he => ?_⟩
  · refine ⟨fileOf stores d, (h.mem _).2 ⟨d, hkept, rfl⟩, ⟨(hname hkept).2, ?_, ?_⟩, fun e he hof => ?_⟩
    · rw [lastPage, ← held_eq (by decide)]
      rfl
    · rw [recordNum_fileOf, lastPage, ← held_eq (by decide)]
      rfl
    · obtain ⟨t, hkept', rfl⟩ := (h.mem e).1 he
      rw [hof.day_inj (hname hkept).1 (hname hkept').1 (hname hkept').2]
  · obtain ⟨d, hkept, rfl⟩ := (h.mem e).1 he
    exact ⟨d, hkept, (hname hkept).2⟩

/-- **The files of the alarms.** After a run on days that do not go back, every directory has one file for each day that
is kept, with the alarms of its last page in order and their number. -/
theorem day_files (stack : ℕ → UInt8) {stores : List Store} (h : InOrder stores) :
    ∃ disk, storeAll stack stores = some disk ∧
      ∀ path, DayFiles stack (stores.filter fun s => s.path = path) (disk path) := by
  obtain ⟨disk, hdisk, hholds⟩ := storeAll_holds stack h
  exact ⟨disk, hdisk, fun path => (hholds path).dayFiles fun s hs => h.dates s (List.mem_of_mem_filter hs)⟩

theorem lamp_known : LAMP_CONTROLLER ≤ LUMETER := by decide

/-- an alarm of a lamp -/
def lampAlarm (alarm_type : UInt8) (device_address : List UInt8) : AlarmReport :=
  ⟨1, LAMP_CONTROLLER, alarm_type, device_address, [0x30], [0x31], [0x32], [0x33], [0x34], lamp_known⟩

def lampStore (alarm_type : UInt8) (d : Date) : Store :=
  ⟨lampAlarm alarm_type [0x31], d, ⟨id, fun _ => List.Perm.refl _⟩⟩

theorem january_recordable {day : ℕ} (h : day ∈ [1, 2]) : Recordable ⟨2024, 1, day⟩ := by
  simp only [List.mem_cons, List.not_mem_nil, or_false] at h
  rcases h with rfl | rfl
  · exact ⟨⟨⟨by decide, by decide, by decide, by decide⟩, by decide, by decide⟩, by decide⟩
  · exact ⟨⟨⟨by decide, by decide, by decide, by decide⟩, by decide, by decide⟩, by decide⟩

/-- two alarms of one day and one of the next -/
theorem day_files_january : ∃ disk, storeAll (fun _ => 0)
      [lampStore 1 ⟨2024, 1, 1⟩, lampStore 2 ⟨2024, 1, 1⟩, lampStore 3 ⟨2024, 1, 2⟩] = some disk ∧
    ∀ path, DayFiles (fun _ => 0) ([lampStore 1 ⟨2024, 1, 1⟩, lampStore 2 ⟨2024, 1, 1⟩, lampStore 3 ⟨2024, 1, 2⟩].filter
      fun s => s.path = path) (disk path) := by
  have hnext : Date.ordinal ⟨2024, 1, 2⟩ = Date.ordinal ⟨2024, 1, 1⟩ + 1 :=
    (after_eq_iff (by decide) (by decide) 1).1 (by decide)
  have hle : Date.ordinal ⟨2024, 1, 1⟩ ≤ Date.ordinal ⟨2024, 1, 2⟩ := by omega
  refine day_files (fun _ => 0) ⟨?_, ?_, ?_⟩
  · simp only [List.forall_mem_cons, List.not_mem_nil, false_imp_iff, implies_true, and_true]
    exact ⟨january_recordable (by decide), january_recordable (by decide), january_recordable (by decide)⟩
  · simp only [List.pairwise_cons, List.forall_mem_cons, List.not_mem_nil, false_imp_iff, implies_true, and_true,
      List.Pairwise.nil]
    exact ⟨⟨le_rfl, hle⟩, hle⟩
  · simp only [List.forall_mem_cons, List.not_mem_nil, false_imp_iff, implies_true, and_true]
    exact ⟨by decide, by decide, by decide⟩

/-! ### Runs that lose alarms -/

/-- for each day with an alarm one file, with all alarms of the day, and their number where two digits hold it -/
structure KeepsDays (stores : List Store) (dir : List Entry) : Prop where
  one : ∀ d ∈ stores.map Store.calendar, ∃ e ∈ dir, AlarmFileOf d e.fname ∧
    (∀ e' ∈ dir, AlarmFileOf d e'.fname → e' = e) ∧ e.content = (linesOf stores d).flatten ∧
    ((linesOf stores d).length ≤ 255 → recordNum e.fname = (linesOf stores d).length)

/-- a run after which the directory of the lamps does not keep the days -/
def Loses (stores : List Store) : Prop :=
  ∃ disk, storeAll (fun _ => 0) stores = some disk ∧
    ¬ KeepsDays (stores.filter fun s => s.path = alarmPath LAMP_CONTROLLER) (disk (alarmPath LAMP_CONTROLLER))

/-- no file with the alarms of the day -/
theorem loses_of_content {stores : List Store} {d : Date} (hlamp : ∀ s ∈ stores, s.path = alarmPath LAMP_CONTROLLER)
    (hd : d ∈ stores.map Store.calendar) {disk : String → List Entry} (hdisk : storeAll (fun _ => 0) stores = some disk)
    (h : ∀ e ∈ disk (alarmPath LAMP_CONTROLLER), e.content ≠ (linesOf stores d).flatten) : Loses stores := by
  have hall : (stores.filter fun s => s.path = alarmPath LAMP_CONTROLLER) = stores :=
    List.filter_eq_self.2 fun s hs => decide_eq_true (hlamp s hs)
  refine ⟨disk, hdisk, fun hkeeps => ?_⟩
  rw [hall] at hkeeps
  obtain ⟨e, he, -, -, hcontent, -⟩ := hkeeps.one d hd
  exact h e he hcontent

/-- the same, where the run can be evaluated -/
theorem loses_of_eval {stores : List Store} {d : Date} (hlamp : ∀ s ∈ stores, s.path = alarmPath LAMP_CONTROLLER)
    (hd : d ∈ stores.map Store.calendar)
    (h : ((storeAll (fun _ => 0) stores).any fun disk =>
      (disk (alarmPath LAMP_CONTROLLER)).all fun e => e.content ≠ (linesOf stores d).flatten) = true) :
    Loses stores := by
  obtain ⟨disk, hdisk, hall⟩ := (Option.any_eq_true _ _).1 h
  exact loses_of_content hlamp hd hdisk fun e he => of_decide_eq_true (List.all_eq_true.1 hall e he)

theorem linesOf_replicate (n : ℕ) (s : Store) :
    linesOf (List.replicate n s) s.calendar = List.replicate n (alarmLine s.alarm_report) := by
  rw [linesOf, List.filter_eq_self.2, List.map_replicate]
  intro x hx
  rw [List.eq_of_mem_replicate hx]
  exact decide_eq_true rfl

theorem length_alarmLine_pos (alarm_report : AlarmReport) : 0 < (alarmLine alarm_report).length :=
  List.length_pos_of_ne_nil (List.append_ne_nil_of_right_ne_nil _ (List.cons_ne_nil _ _))

/-- the file of a full page goes with the next alarm -/
theorem full_page_lost {s : Store} (hdate : Recordable s.calendar) (hfits : FitsWrBuf s.alarm_report)
    (hpath : s.path = alarmPath LAMP_CONTROLLER) : Loses (List.replicate 256 s) := by
  have hstore : ∀ x ∈ List.replicate 256 s, x = s := fun x hx => List.eq_of_mem_replicate hx
  have horder : InOrder (List.replicate 256 s) :=
    ⟨fun x hx => hstore x hx ▸ hdate, List.pairwise_replicate.2 (Or.inr le_rfl), fun x hx => hstore x hx ▸ hfits⟩
  have hlamp : ∀ x ∈ List.replicate 256 s, x.path = alarmPath LAMP_CONTROLLER := fun x hx => hstore x hx ▸ hpath
  have hall := List.filter_eq_self.2 fun x hx => decide_eq_true (hlamp x hx)
  obtain ⟨disk, hdisk, hholds⟩ := storeAll_holds (fun _ => 0) horder
  have hdir := hholds (alarmPath LAMP_CONTROLLER)
  rw [hall] at hdir
  have hs : s ∈ List.replicate 256 s := List.mem_replicate.2 ⟨by decide, rfl⟩
  refine loses_of_content hlamp (List.mem_map_of_mem hs) hdisk fun e he hcontent => ?_
  obtain ⟨d, hkept, rfl⟩ := (hdir.mem e).1 he
  obtain ⟨x, hx, rfl⟩ := hkept.exists_store
  rw [hstore x hx] at hcontent
  have hpage : pageOf (List.replicate 256 s) s.calendar = [alarmLine s.alarm_report] := by
    rw [pageOf, linesOf_replicate, held_eq (by decide), List.length_replicate, List.drop_replicate]
    rfl
  have hlen := congrArg List.length hcontent
  have hpos := length_alarmLine_pos s.alarm_report
  rw [linesOf_replicate, List.length_flatten, List.map_replicate, List.sum_replicate, smul_eq_mul] at hlen
  change (pageOf (List.replicate 256 s) s.calendar).flatten.length = _ at hlen
  rw [hpage, List.flatten_singleton] at hlen
  omega

/-- **Alarms that are lost.** The file of a day goes after 30 days, after a full page, and where its name does not read
as a day from 2020 on. -/
theorem alarms_lost :
    Loses [lampStore 1 ⟨2024, 1, 1⟩, lampStore 2 ⟨2024, 3, 1⟩] ∧
    Loses (List.replicate 256 (lampStore 1 ⟨2024, 1, 1⟩)) ∧
    Loses [lampStore 1 ⟨2019, 6, 1⟩, lampStore 2 ⟨2019, 6, 1⟩] ∧
    Loses [lampStore 1 ⟨2100, 1, 1⟩, lampStore 2 ⟨2100, 1, 1⟩] ∧
    storeAll (fun _ => 0) [⟨lampAlarm 1 (List.replicate 256 0x31), ⟨2024, 1, 1⟩, ⟨id, fun _ => List.Perm.refl _⟩⟩] =
      none := by
  refine ⟨loses_of_eval (d := ⟨2024, 1, 1⟩) (by decide) (by decide) (by decide +kernel),
    full_page_lost (january_recordable (by decide)) (by decide) rfl,
    loses_of_eval (d := ⟨2019, 6, 1⟩) (by decide) (by decide) (by decide +kernel),
    loses_of_eval (d := ⟨2100, 1, 1⟩) (by decide) (by decide) (by decide +kernel), ?_⟩
  rw [storeAll, List.foldlM_cons, storeAlarmToSpiFlash, if_neg (by decide +kernel)]
  rfl

end DataConcentrator.History
