import AuthsProof.Lib.Cursor
import AuthsProof.Lifecycle.Isolation
import AuthsProof.Signing

/-! The file a lifecycle store keeps its records in, and when a store can be reopened from it. -/

namespace AuthsProof.Lifecycle

open Wire Rfc8949

def databaseMagic : Bytes := utf8 "AUTHSLF1"
def maxDatabaseBytes : Nat := 256 * 1024 * 1024

section Codec

variable [Sha256] [Postcard]

/-- The record of a workflow as it stands in the file. -/
def encodeFrame (entry : WorkflowId × LifecycleRecord) : Except StoreError Bytes := do
  let workflowBytes := utf8 entry.1.str
  if 2 ^ 16 ≤ workflowBytes.length then .error .corrupt
  let recordBytes ← (encodeRecord entry.2).mapError fun _ => .corrupt
  if 2 ^ 32 ≤ recordBytes.length then .error .limitExceeded
  pure (bigEndian 2 workflowBytes.length ++ workflowBytes ++ bigEndian 4 recordBytes.length ++
    recordBytes)

def encodeDatabase (database : LifecycleDatabase) : Except StoreError Bytes :=
  if 2 ^ 32 ≤ database.entries.length then .error .limitExceeded
  else do
    let frames ← database.entries.mapM encodeFrame
    let payload := databaseMagic ++ bigEndian 4 database.entries.length ++ frames.flatten
    let bytes := payload ++ (Sha256.digest payload).bytes
    if maxDatabaseBytes < bytes.length then .error .limitExceeded else pure bytes

def readEntry : Reader StoreError (WorkflowId × LifecycleRecord) := do
  let workflowBytes ← takeCounted .corrupt 2
  let workflowText ← fromExcept (match String.fromUTF8? ⟨⟨workflowBytes⟩⟩ with
    | some text => .ok text
    | none => .error .corrupt)
  let workflow ← fromExcept ((WorkflowId.parse workflowText).mapError fun _ => .corrupt)
  let recordBytes ← takeCounted .corrupt 4
  let record ← fromExcept ((decodeRecord recordBytes).mapError fun _ => .corrupt)
  pure (workflow, record)

/-- Reads `count` records into a map. -/
def readRecords : Nat → LifecycleDatabase → Reader StoreError LifecycleDatabase
  | 0, records => pure records
  | count + 1, records => do
    let (workflow, record) ← readEntry
    ensure (record.input.workflowId = workflow ∧ records.get workflow = none) .corrupt
    readRecords count (records.insert workflow record)

def readDatabase (maximumRecords : Nat) : Reader StoreError LifecycleDatabase := do
  let magic ← takeBytes .corrupt 8
  ensure (magic = databaseMagic) .corrupt
  let count ← takeNat .corrupt 4
  ensure (count ≤ maximumRecords) .limitExceeded
  readRecords count .empty

def decodeDatabase (bytes : Bytes) (maximumRecords : Nat) : Except StoreError LifecycleDatabase :=
  if bytes.length < databaseMagic.length + 4 + 32 || maxDatabaseBytes < bytes.length then
    .error .corrupt
  else
    let payload := bytes.take (bytes.length - 32)
    let committedDigest := bytes.drop (bytes.length - 32)
    if (Sha256.digest payload).bytes ≠ committedDigest then .error .corrupt
    else match (readDatabase maximumRecords).run payload with
      | .error error => .error error
      | .ok (database, remaining) => if !remaining.isEmpty then .error .corrupt else .ok database

/-! ## Frames -/

/-- The layout of one frame. -/
def frame (workflow : WorkflowId) (recordBytes : Bytes) : Bytes :=
  bigEndian 2 (utf8 workflow.str).length ++ (utf8 workflow.str ++
    (bigEndian 4 recordBytes.length ++ recordBytes))

/-- A sound record whose bytes the serializer reads back. -/
def Canonical (record : LifecycleRecord) (bytes : Bytes) : Prop :=
  validateRecordIntegrity record = true ∧ encodeUnchecked record = .ok bytes ∧
    decodeWire bytes = .ok record

omit [Sha256] in
theorem encodeUnchecked_length {record : LifecycleRecord} {bytes : Bytes}
    (h : encodeUnchecked record = .ok bytes) : bytes.length ≤ maxLifecycleRecordBytes := by
  unfold encodeUnchecked at h
  split at h
  · cases h
  · split at h
    · cases h
    · obtain rfl := Except.ok.inj h
      omega

omit [Sha256] in
theorem encodeUnchecked_of_short {record : LifecycleRecord} {bytes : Bytes}
    (h : Postcard.toAllocvec (wireEnvelope record) = some bytes)
    (hshort : bytes.length ≤ maxLifecycleRecordBytes) : encodeUnchecked record = .ok bytes := by
  rw [encodeUnchecked, h]
  exact if_neg (not_lt.mpr hshort)

theorem decodeWire_of_read {record : LifecycleRecord} {bytes : Bytes}
    (h : Postcard.fromBytes bytes = some (wireEnvelope record)) :
    decodeWire bytes = (wireRecord record).toRecord := by
  rw [decodeWire, h]
  rfl

theorem encodeRecord_eq_ok {record : LifecycleRecord} {bytes : Bytes} :
    encodeRecord record = .ok bytes ↔ Canonical record bytes := by
  constructor
  · intro h
    unfold encodeRecord at h
    by_cases hvalid : validateRecordIntegrity record = true
    · simp only [hvalid, Bool.not_true, Bool.false_eq_true, if_false] at h
      obtain ⟨encoded, hencoded, h⟩ := Except.bind_eq_ok.mp h
      obtain ⟨reconstructed, hdecoded, h⟩ := Except.bind_eq_ok.mp h
      by_cases hsame : reconstructed = record
      · simp only [hsame, ne_eq, not_true_eq_false, if_false] at h
        obtain rfl := Except.ok.inj h
        exact ⟨hvalid, hencoded, hsame ▸ hdecoded⟩
      · simp [hsame, bind, Except.bind] at h
    · simp [hvalid, bind, Except.bind] at h
  · intro ⟨hvalid, hencoded, hdecoded⟩
    simp [encodeRecord, hvalid, hencoded, hdecoded, bind, Except.bind, pure, Except.pure]

theorem decodeRecord_eq_ok {record : LifecycleRecord} {bytes : Bytes} :
    decodeRecord bytes = .ok record ↔ Canonical record bytes := by
  constructor
  · intro h
    unfold decodeRecord at h
    by_cases hlength : maxLifecycleRecordBytes < bytes.length
    · simp [hlength, bind, Except.bind] at h
    · simp only [hlength, if_false] at h
      obtain ⟨decoded, hdecoded, h⟩ := Except.bind_eq_ok.mp h
      by_cases hvalid : validateRecordIntegrity decoded = true
      · simp only [hvalid, Bool.not_true, Bool.false_eq_true, if_false] at h
        obtain ⟨encoded, hencoded, h⟩ := Except.bind_eq_ok.mp h
        by_cases hsame : encoded = bytes
        · simp only [hsame, ne_eq, not_true_eq_false, if_false] at h
          obtain rfl := Except.ok.inj h
          exact ⟨hvalid, hsame ▸ hencoded, hdecoded⟩
        · simp [hsame, bind, Except.bind] at h
      · simp [hvalid, bind, Except.bind] at h
  · intro ⟨hvalid, hencoded, hdecoded⟩
    have hlength := encodeUnchecked_length hencoded
    simp [decodeRecord, hvalid, hencoded, hdecoded, if_neg (not_lt.mpr hlength), bind, Except.bind,
      pure, Except.pure]

omit [Sha256] [Postcard] in
theorem length_workflow (workflow : WorkflowId) : (utf8 workflow.str).length ≤ 256 := by
  have hvalid := workflow.valid
  unfold validateWorkflow at hvalid
  split at hvalid
  · cases hvalid
  · split at hvalid
    · cases hvalid
    · next hlength => exact not_lt.mp hlength

omit [Sha256] [Postcard] in
theorem mapError_eq_ok {ε δ α : Type} {x : Except ε α} {f : ε → δ} {a : α} :
    x.mapError f = .ok a ↔ x = .ok a := by
  cases x <;> simp [Except.mapError]

theorem encodeFrame_eq_ok {entry : WorkflowId × LifecycleRecord} {bytes : Bytes} :
    encodeFrame entry = .ok bytes ↔
      ∃ recordBytes, Canonical entry.2 recordBytes ∧ bytes = frame entry.1 recordBytes := by
  have hworkflow := length_workflow entry.1
  have hshort : ¬2 ^ 16 ≤ (utf8 entry.1.str).length := by omega
  simp only [encodeFrame, hshort, if_false]
  constructor
  · intro h
    obtain ⟨recordBytes, hrecord, h⟩ := Except.bind_eq_ok.mp h
    have hcanonical := encodeRecord_eq_ok.mp (mapError_eq_ok.mp hrecord)
    have hlength := encodeUnchecked_length hcanonical.2.1
    unfold maxLifecycleRecordBytes at hlength
    rw [if_neg (by omega)] at h
    refine ⟨recordBytes, hcanonical, ?_⟩
    rw [← Except.ok.inj h]
    simp [frame]
  · intro ⟨recordBytes, hcanonical, hbytes⟩
    have hlength := encodeUnchecked_length hcanonical.2.1
    unfold maxLifecycleRecordBytes at hlength
    refine Except.bind_eq_ok.mpr
      ⟨recordBytes, mapError_eq_ok.mpr (encodeRecord_eq_ok.mpr hcanonical), ?_⟩
    rw [if_neg (by omega), hbytes]
    simp [frame, pure, Except.pure]

omit [Sha256] [Postcard] in
theorem parse_eq_ok {text : String} {workflow : WorkflowId} :
    WorkflowId.parse text = .ok workflow ↔ workflow.str = text := by
  constructor
  · intro h
    unfold WorkflowId.parse at h
    split at h
    · rw [← Except.ok.inj h]
    · cases h
  · intro h
    rw [← h, WorkflowId.parse_str]

/-- One entry is read exactly where its frame stands. -/
theorem takes_readEntry : Takes readEntry fun entry bs => encodeFrame entry = .ok bs := by
  refine ((takes_takeCounted StoreError.corrupt 2).bind fun workflowBytes => Takes.step fun text =>
    Takes.step fun workflow => (takes_takeCounted StoreError.corrupt 4).bind fun recordBytes =>
      Takes.step fun record => Takes.pure (workflow, record)).congr fun entry bs => ?_
  rw [encodeFrame_eq_ok]
  constructor
  · intro ⟨recordBytes, hcanonical, hbs⟩
    have hworkflow := length_workflow entry.1
    have hlength := encodeUnchecked_length hcanonical.2.1
    unfold maxLifecycleRecordBytes at hlength
    refine ⟨utf8 entry.1.str, _, _, ⟨by omega, rfl⟩, ⟨entry.1.str, ?_, entry.1, ?_, recordBytes, _, [],
      ⟨by omega, rfl⟩, ⟨entry.2, ?_, rfl, rfl⟩, rfl⟩, ?_⟩
    · have hdecoded : String.fromUTF8? ⟨⟨utf8 entry.1.str⟩⟩ = some entry.1.str :=
        fromUTF8?_eq_some.mpr rfl
      rw [hdecoded]
    · exact mapError_eq_ok.mpr (WorkflowId.parse_str _)
    · exact mapError_eq_ok.mpr (decodeRecord_eq_ok.mpr hcanonical)
    · rw [hbs, frame]
      simp
  · intro ⟨workflowBytes, xs, ys, ⟨hworkflow, hxs⟩, ⟨text, htext, workflow, hparse, recordBytes, us,
      vs, ⟨hrecord, hus⟩, ⟨record, hdecode, hentry, hvs⟩, hys⟩, hbs⟩
    have hstr := parse_eq_ok.mp (mapError_eq_ok.mp hparse)
    have hutf8 : workflowBytes = utf8 workflow.str := by
      split at htext
      · next decoded hdecoded =>
        rw [hstr, ← Except.ok.inj htext]
        exact fromUTF8?_eq_some.mp hdecoded
      · cases htext
    refine ⟨recordBytes, ?_, ?_⟩
    · rw [hentry]
      exact decodeRecord_eq_ok.mp (mapError_eq_ok.mp hdecode)
    · rw [hbs, hxs, hys, hus, hvs, hentry, frame, hutf8]
      simp

/-! ## Files -/

omit [Sha256] [Postcard] in
/-- Each record stands under its own workflow. -/
def Owned (entries : List (WorkflowId × LifecycleRecord)) : Prop :=
  ∀ entry ∈ entries, entry.2.input.workflowId = entry.1

omit [Sha256] [Postcard] in
theorem perm_insert_append {records database : LifecycleDatabase} {workflow : WorkflowId}
    {record : LifecycleRecord} {entries : List (WorkflowId × LifecycleRecord)}
    (h : records.get workflow = none) :
    database.entries.Perm ((records.insert workflow record).entries ++ entries) ↔
      database.entries.Perm (records.entries ++ (workflow, record) :: entries) := by
  have hinsert := (SortedMap.entries_insert_perm_of_get_eq_none h record).append_right entries
  have hmiddle : (records.entries ++ (workflow, record) :: entries).Perm
      ((workflow, record) :: records.entries ++ entries) := List.perm_middle
  exact ⟨fun hperm => (hperm.trans hinsert).trans hmiddle.symm,
    fun hperm => (hperm.trans hmiddle).trans hinsert.symm⟩

/-- Reading adds as many entries as it is told, each under its own workflow and no two under one. -/
theorem takes_readRecords (count : Nat) (records : LifecycleDatabase) :
    Takes (readRecords count records) fun database bs => ∃ entries frames,
      entries.length = count ∧ Owned entries ∧ database.entries.Perm (records.entries ++ entries) ∧
      entries.mapM encodeFrame = .ok frames ∧ bs = frames.flatten := by
  induction count generalizing records with
  | zero =>
    refine (Takes.pure records).congr fun database bs => ?_
    constructor
    · intro ⟨entries, frames, hcount, _, hperm, hframes, hbs⟩
      obtain rfl := List.length_eq_zero_iff.mp hcount
      rw [List.append_nil] at hperm
      obtain rfl : [] = frames := Except.ok.inj hframes
      exact ⟨SortedMap.eq_of_entries_perm hperm, hbs⟩
    · intro ⟨hdatabase, hbs⟩
      refine ⟨[], [], rfl, fun _ h => (nomatch h), ?_, rfl, hbs⟩
      rw [hdatabase, List.append_nil]
  | succ count ih =>
    refine (takes_readEntry.bind fun entry => Takes.ensure (ih _)).congr fun database bs => ?_
    constructor
    · intro ⟨entries, frames, hcount, howned, hperm, hframes, hbs⟩
      obtain ⟨entry, entries, rfl⟩ := List.exists_cons_of_length_eq_add_one hcount
      obtain ⟨f, hf, hframes⟩ := Except.bind_eq_ok.mp (List.mapM_cons.symm.trans hframes)
      obtain ⟨fs, hfs, hframes⟩ := Except.bind_eq_ok.mp hframes
      have hfresh := SortedMap.get_eq_none.mpr (SortedMap.get_eq_none_of_perm hperm)
      refine ⟨entry, f, fs.flatten, hf, ⟨⟨howned entry List.mem_cons_self, hfresh⟩, entries, fs,
        by simpa using hcount, fun e he => howned e (List.mem_cons_of_mem _ he),
        (perm_insert_append hfresh).mpr hperm, hfs, rfl⟩, ?_⟩
      rw [hbs, ← Except.ok.inj hframes, List.flatten_cons]
    · intro ⟨entry, f, gs, hf, ⟨⟨hown, hfresh⟩, entries, fs, hcount, howned, hperm, hfs, hgs⟩, hbs⟩
      refine ⟨entry :: entries, f :: fs, by simp [hcount], ?_, (perm_insert_append hfresh).mp hperm,
        ?_, ?_⟩
      · intro e he
        rcases List.mem_cons.mp he with rfl | he
        · exact hown
        · exact howned e he
      · rw [List.mapM_cons, hf, hfs]
        rfl
      · rw [hbs, hgs, List.flatten_cons]

omit [Postcard] in
/-- The layout of a file: the magic, the number of records, the frames and the digest of all that. -/
def file (frames : List Bytes) : Bytes :=
  databaseMagic ++ bigEndian 4 frames.length ++ frames.flatten ++
    (Sha256.digest (databaseMagic ++ bigEndian 4 frames.length ++ frames.flatten)).bytes

theorem length_mapM {entries : List (WorkflowId × LifecycleRecord)} {frames : List Bytes}
    (h : entries.mapM encodeFrame = .ok frames) : frames.length = entries.length := by
  induction entries generalizing frames with
  | nil =>
    obtain rfl : [] = frames := Except.ok.inj h
    rfl
  | cons entry entries ih =>
    obtain ⟨f, hf, h⟩ := Except.bind_eq_ok.mp (List.mapM_cons.symm.trans h)
    obtain ⟨fs, hfs, h⟩ := Except.bind_eq_ok.mp h
    rw [← Except.ok.inj h, List.length_cons, List.length_cons, ih hfs]

theorem encodeDatabase_eq_ok {database : LifecycleDatabase} {bytes : Bytes} :
    encodeDatabase database = .ok bytes ↔ database.entries.length < 2 ^ 32 ∧
      bytes.length ≤ maxDatabaseBytes ∧
      ∃ frames, database.entries.mapM encodeFrame = .ok frames ∧ bytes = file frames := by
  unfold encodeDatabase
  by_cases hcount : 2 ^ 32 ≤ database.entries.length
  · rw [if_pos hcount]
    exact ⟨fun h => (nomatch h), fun h => absurd h.1 (not_lt.mpr hcount)⟩
  · rw [if_neg hcount]
    constructor
    · intro h
      obtain ⟨frames, hframes, h⟩ := Except.bind_eq_ok.mp h
      rw [← length_mapM hframes] at h
      by_cases hlength : maxDatabaseBytes < (file frames).length
      · exact absurd ((if_pos hlength).symm.trans h) (by simp)
      · obtain rfl : file frames = bytes := Except.ok.inj ((if_neg hlength).symm.trans h)
        exact ⟨not_le.mp hcount, not_lt.mp hlength, frames, hframes, rfl⟩
    · intro ⟨_, hlength, frames, hframes, hbytes⟩
      refine Except.bind_eq_ok.mpr ⟨frames, hframes, ?_⟩
      rw [← length_mapM hframes]
      rw [hbytes] at hlength ⊢
      exact if_neg (not_lt.mpr hlength)

theorem takes_readDatabase (maximumRecords : Nat) :
    Takes (readDatabase maximumRecords) fun database bs => ∃ entries frames,
      entries.length < 2 ^ 32 ∧ entries.length ≤ maximumRecords ∧ Owned entries ∧
      database.entries.Perm entries ∧ entries.mapM encodeFrame = .ok frames ∧
      bs = databaseMagic ++ bigEndian 4 frames.length ++ frames.flatten := by
  refine ((takes_takeBytes StoreError.corrupt 8).bind fun magic => Takes.ensure
    ((takes_takeNat StoreError.corrupt 4).bind fun count => Takes.ensure
      (takes_readRecords count .empty))).congr fun database bs => ?_
  constructor
  · intro ⟨entries, frames, hcount, hmaximum, howned, hperm, hframes, hbs⟩
    refine ⟨databaseMagic, databaseMagic, _, ⟨rfl, by decide⟩, ⟨rfl, entries.length, _, _, ⟨hcount, rfl⟩,
      ⟨hmaximum, entries, frames, rfl, howned, hperm, hframes, rfl⟩, rfl⟩, ?_⟩
    rw [hbs, length_mapM hframes, List.append_assoc]
  · intro ⟨magic, xs, ys, ⟨hmagic, _⟩, ⟨hsame, count, us, vs, ⟨hcount, hus⟩,
      ⟨hmaximum, entries, frames, hentries, howned, hperm, hframes, hvs⟩, hys⟩, hbs⟩
    subst hentries
    refine ⟨entries, frames, hcount, hmaximum, howned, hperm, hframes, ?_⟩
    rw [hbs, hys, hus, hvs, ← hmagic, hsame, length_mapM hframes, List.append_assoc]

/-- A file is accepted exactly when it is the layout of records that stand each under its own
workflow, in whatever order. -/
theorem decodeDatabase_eq_ok {bytes : Bytes} {maximumRecords : Nat} {database : LifecycleDatabase} :
    decodeDatabase bytes maximumRecords = .ok database ↔ bytes.length ≤ maxDatabaseBytes ∧
      ∃ entries frames, entries.length < 2 ^ 32 ∧ entries.length ≤ maximumRecords ∧ Owned entries ∧
        database.entries.Perm entries ∧ entries.mapM encodeFrame = .ok frames ∧
        bytes = file frames := by
  unfold decodeDatabase
  dsimp only
  constructor
  · intro h
    split at h
    · cases h
    · next hlength =>
      simp only [Bool.or_eq_true, decide_eq_true_eq, not_or, not_lt] at hlength
      split at h
      · cases h
      · next hdigest =>
        split at h
        · cases h
        · next database' remaining hrun =>
          split at h
          · cases h
          · next hremaining =>
            obtain rfl : database' = database := Except.ok.inj h
            obtain ⟨bs, ⟨entries, frames, hcount, hmaximum, howned, hperm, hframes, hbs⟩, hpayload⟩ :=
              (takes_readDatabase maximumRecords _ _ _).mp hrun
            obtain rfl : remaining = [] := by simpa using hremaining
            rw [List.append_nil, hbs] at hpayload
            refine ⟨hlength.2, entries, frames, hcount, hmaximum, howned, hperm, hframes, ?_⟩
            rw [file, ← hpayload, not_not.mp hdigest, List.take_append_drop]
  · intro ⟨hlength, entries, frames, hcount, hmaximum, howned, hperm, hframes, hbytes⟩
    have hdigest : (Sha256.digest (databaseMagic ++ bigEndian 4 frames.length ++
        frames.flatten)).bytes.length = 32 := Digest.length_eq _
    have hmagic : databaseMagic.length = 8 := by decide
    have hsplit : bytes.length - 32 =
        (databaseMagic ++ bigEndian 4 frames.length ++ frames.flatten).length := by
      rw [hbytes, file, List.length_append, hdigest]
      omega
    have hshort : ¬(bytes.length < databaseMagic.length + 4 + 32) := by
      rw [hbytes, file, List.length_append, hdigest, List.length_append, List.length_append,
        bigEndian_length]
      omega
    have hrun : (readDatabase maximumRecords).run (databaseMagic ++ bigEndian 4 frames.length ++
        frames.flatten) = .ok (database, []) :=
      (takes_readDatabase maximumRecords _ _ _).mpr ⟨_, ⟨entries, frames, hcount, hmaximum, howned,
        hperm, hframes, rfl⟩, (List.append_nil _).symm⟩
    rw [if_neg (by simp [hshort, hlength])]
    rw [hsplit, hbytes, file, List.take_left, List.drop_left, hrun]
    simp

/-! ## The order of the frames -/

omit [Sha256] [Postcard] in
theorem frame_append_inj {w w' : WorkflowId} {b b' xs ys : Bytes} (hb : b.length < 2 ^ 32)
    (hb' : b'.length < 2 ^ 32) (h : frame w b ++ xs = frame w' b' ++ ys) :
    w = w' ∧ b = b' ∧ xs = ys := by
  have hw := length_workflow w
  have hw' := length_workflow w'
  simp only [frame, List.append_assoc] at h
  obtain ⟨hlength, h⟩ := List.append_inj h (by simp)
  have hsize := congrArg fromBigEndian hlength
  rw [fromBigEndian_bigEndian (by omega), fromBigEndian_bigEndian (by omega)] at hsize
  obtain ⟨hworkflow, h⟩ := List.append_inj h hsize
  obtain ⟨hlength, h⟩ := List.append_inj h (by simp)
  have hsize := congrArg fromBigEndian hlength
  rw [fromBigEndian_bigEndian (by omega), fromBigEndian_bigEndian (by omega)] at hsize
  obtain ⟨hrecord, hrest⟩ := List.append_inj h hsize
  exact ⟨WorkflowId.str_injective (utf8_injective hworkflow), hrecord, hrest⟩

omit [Sha256] [Postcard] in
theorem frames_inj {ps qs : List (WorkflowId × Bytes)} (hps : ∀ p ∈ ps, p.2.length < 2 ^ 32)
    (hqs : ∀ q ∈ qs, q.2.length < 2 ^ 32) (hlength : ps.length = qs.length)
    (h : (ps.map fun p => frame p.1 p.2).flatten = (qs.map fun q => frame q.1 q.2).flatten) :
    ps = qs := by
  induction ps generalizing qs with
  | nil => exact (List.length_eq_zero_iff.mp hlength.symm).symm
  | cons p ps ih =>
    obtain ⟨q, qs, rfl⟩ := List.exists_cons_of_length_eq_add_one hlength.symm
    rw [List.map_cons, List.map_cons, List.flatten_cons, List.flatten_cons] at h
    obtain ⟨hworkflow, hrecord, hrest⟩ := frame_append_inj (hps p List.mem_cons_self)
      (hqs q List.mem_cons_self) h
    have htail := ih (fun p hp => hps p (List.mem_cons_of_mem _ hp))
      (fun q hq => hqs q (List.mem_cons_of_mem _ hq)) (by simpa using hlength) hrest
    rw [htail, Prod.ext hworkflow hrecord]

omit [Postcard] in
/-- A file whose frames stand in strictly ascending order of their workflows. -/
def Ascending (bytes : Bytes) : Prop :=
  ∃ frames : List (WorkflowId × Bytes), frames.Pairwise (fun a b => a.1 < b.1) ∧
    bytes = file (frames.map fun f => frame f.1 f.2)

theorem exists_frames {entries : List (WorkflowId × LifecycleRecord)} {frames : List Bytes}
    (h : entries.mapM encodeFrame = .ok frames) :
    ∃ ps : List (WorkflowId × Bytes), ps.map Prod.fst = entries.map Prod.fst ∧
      frames = ps.map fun p => frame p.1 p.2 := by
  induction entries generalizing frames with
  | nil =>
    obtain rfl : [] = frames := Except.ok.inj h
    exact ⟨[], rfl, rfl⟩
  | cons entry entries ih =>
    obtain ⟨f, hf, h⟩ := Except.bind_eq_ok.mp (List.mapM_cons.symm.trans h)
    obtain ⟨fs, hfs, h⟩ := Except.bind_eq_ok.mp h
    obtain ⟨recordBytes, -, rfl⟩ := encodeFrame_eq_ok.mp hf
    obtain ⟨ps, hkeys, rfl⟩ := ih hfs
    refine ⟨(entry.1, recordBytes) :: ps, by simp [hkeys], ?_⟩
    rw [← Except.ok.inj h]
    rfl

omit [Postcard] in
/-- Frames of a file are shorter than the file, and so are their records. -/
theorem length_le_file {ps : List (WorkflowId × Bytes)} :
    ps.length ≤ (file (ps.map fun p => frame p.1 p.2)).length ∧
      ∀ p ∈ ps, p.2.length ≤ (file (ps.map fun p => frame p.1 p.2)).length := by
  have hflatten : ps.length ≤ (ps.map fun p => frame p.1 p.2).flatten.length ∧
      ∀ p ∈ ps, p.2.length ≤ (ps.map fun p => frame p.1 p.2).flatten.length := by
    induction ps with
    | nil => simp
    | cons p ps ih =>
      have hframe : p.2.length + 1 ≤ (frame p.1 p.2).length := by
        simp only [frame, List.length_append, bigEndian_length]
        omega
      rw [List.map_cons, List.flatten_cons, List.length_append, List.length_cons]
      refine ⟨by omega, fun q hq => ?_⟩
      rcases List.mem_cons.mp hq with rfl | hq
      · omega
      · exact (ih.2 q hq).trans (by omega)
  have hfile : (ps.map fun p => frame p.1 p.2).flatten.length ≤
      (file (ps.map fun p => frame p.1 p.2)).length := by
    simp only [file, List.length_append]
    omega
  exact ⟨hflatten.1.trans hfile, fun p hp => (hflatten.2 p hp).trans hfile⟩

omit [Postcard] in
theorem file_inj {ps qs : List (WorkflowId × Bytes)}
    (hlength : (file (ps.map fun p => frame p.1 p.2)).length ≤ maxDatabaseBytes)
    (h : file (ps.map fun p => frame p.1 p.2) = file (qs.map fun q => frame q.1 q.2)) : ps = qs := by
  have hps := @length_le_file _ ps
  have hqs := @length_le_file _ qs
  rw [← h] at hqs
  unfold maxDatabaseBytes at hlength
  unfold file at h
  have hpayload := (List.append_inj' h (by rw [Digest.length_eq, Digest.length_eq])).1
  obtain ⟨hhead, hframes⟩ := List.append_inj hpayload (by simp)
  have hcount := congrArg fromBigEndian (List.append_cancel_left hhead)
  rw [List.length_map, List.length_map, fromBigEndian_bigEndian (by omega),
    fromBigEndian_bigEndian (by omega)] at hcount
  refine frames_inj (fun p hp => ?_) (fun q hq => ?_) hcount hframes
  · exact (hps.2 p hp).trans_lt (by omega)
  · exact (hqs.2 q hq).trans_lt (by omega)

/-- What is read from a file is written back to it exactly when its frames ascend. -/
theorem encode_of_decode_iff {bytes : Bytes} {maximumRecords : Nat} {database : LifecycleDatabase}
    (h : decodeDatabase bytes maximumRecords = .ok database) :
    encodeDatabase database = .ok bytes ↔ Ascending bytes := by
  obtain ⟨hlength, entries, frames, hcount, -, -, hperm, hframes, hbytes⟩ := decodeDatabase_eq_ok.mp h
  constructor
  · intro hencode
    obtain ⟨-, -, frames', hframes', hbytes'⟩ := encodeDatabase_eq_ok.mp hencode
    obtain ⟨ps, hkeys, rfl⟩ := exists_frames hframes'
    refine ⟨ps, ?_, hbytes'⟩
    have hsorted : (ps.map Prod.fst).Pairwise (· < ·) := by
      rw [hkeys, List.pairwise_map]
      exact database.sorted
    rwa [List.pairwise_map] at hsorted
  · intro ⟨ps, hsorted, hps⟩
    obtain ⟨qs, hkeys, rfl⟩ := exists_frames hframes
    obtain rfl : ps = qs := by
      refine file_inj ?_ (hps.symm.trans hbytes)
      rw [← hps]
      exact hlength
    have hascending : entries.Pairwise fun a b => a.1 < b.1 := by
      have hmapped : (entries.map Prod.fst).Pairwise (· < ·) := by
        rw [← hkeys, List.pairwise_map]
        exact hsorted
      rwa [List.pairwise_map] at hmapped
    have hentries : database.entries = entries :=
      congrArg SortedMap.entries (@SortedMap.eq_of_entries_perm _ _ _ database ⟨entries, hascending⟩ hperm)
    rw [encodeDatabase_eq_ok, hentries]
    exact ⟨hcount, hlength, _, hframes, hbytes⟩

/-! ## Reopening -/

/-- A database that fits its limit and encodes is read back exactly when each record stands under its
own workflow. -/
theorem decode_of_encode_iff {database : LifecycleDatabase} {bytes : Bytes} {maximumRecords : Nat}
    (hlimit : database.entries.length ≤ maximumRecords)
    (h : encodeDatabase database = .ok bytes) :
    decodeDatabase bytes maximumRecords = .ok database ↔ Owned database.entries := by
  obtain ⟨hcount, hlength, frames, hframes, hbytes⟩ := encodeDatabase_eq_ok.mp h
  rw [decodeDatabase_eq_ok]
  constructor
  · intro ⟨_, entries, _, _, _, howned, hperm, _, _⟩ e he
    exact howned e (hperm.mem_iff.mp he)
  · intro howned
    exact ⟨hlength, database.entries, frames, hcount, hlimit, howned, .refl _, hframes, hbytes⟩

omit [Postcard] in
theorem StoreRun.length_le {rules : List LifecycleCapacityRule} {maximumRecords : Nat}
    {entries : List Entry} {database : LifecycleDatabase}
    (h : StoreRun rules maximumRecords .empty entries database) :
    database.entries.length ≤ maximumRecords := by
  induction h with
  | start => exact Nat.zero_le _
  | @transact entries database h transaction persist ih =>
    have hstep := transacted database rules maximumRecords transaction persist
    generalize transactDatabase database rules maximumRecords transaction persist = answer at hstep ⊢
    cases hstep with
    | failed error => exact ih
    | replayed _ _ _ => exact ih
    | @applied capacity record _ hroom _ _ =>
      rw [(database.entries_insert_perm transaction.workflowId record).length_eq, List.length_cons]
      cases hget : database.get transaction.workflowId with
      | none =>
        rw [SortedMap.others_of_get_eq_none hget]
        exact hroom hget
      | some r =>
        rw [(SortedMap.entries_perm_of_get hget).length_eq, List.length_cons] at ih
        exact ih

omit [Sha256] [Postcard] in
/-- No decision was stored under the key of another workflow. -/
def OwnDecisions (entries : List Entry) : Prop :=
  ∀ entry ∈ entries, entry.isApplied = true → ∀ input,
    entry.transaction.command = .recordDecision input →
    input.workflowId = entry.transaction.workflowId

omit [Postcard] in
/-- Each record stands under its own workflow exactly when each stored decision did. -/
theorem StoreRun.owned_iff {rules : List LifecycleCapacityRule} {maximumRecords : Nat}
    {entries : List Entry} {database : LifecycleDatabase}
    (h : StoreRun rules maximumRecords .empty entries database) :
    Owned database.entries ↔ OwnDecisions entries := by
  constructor
  · intro howned entry hentry happlied input hcommand
    obtain ⟨record, hstored⟩ := Entry.isApplied_iff.mp happlied
    obtain ⟨r, hget, hinput, -, -⟩ :=
      (h.ordered entry.transaction.workflowId).kept entry hentry rfl record hstored
    obtain ⟨before, after, rfl⟩ := List.append_of_mem hentry
    obtain ⟨a, r', hstep, rfl⟩ := h.stepped hstored
    have hrecord : a.record.input = input := by
      have hadvances := hstep.advances
      have hdecision := hstep.command.trans hcommand
      cases hadvances with
      | decision input' context _ => exact TransitionCommand.recordDecision.inj hdecision
      | edge he _ =>
        dsimp only at hdecision
        rw [hdecision] at he
        cases he
    rw [← hrecord, hinput]
    exact howned _ (SortedMap.get_eq_some.mp hget)
  · intro hdecisions ⟨w, record⟩ hmem
    have hagrees := h.agrees w
    rw [Agrees, SortedMap.get_eq_some.mpr hmem] at hagrees
    obtain ⟨a, ha, hcommand⟩ := hagrees.explained.decision
    obtain ⟨entry, hentry, hw, happlied⟩ := mem_appliedOn ha
    have hstored := Entry.stored_of_applied happlied
    have hsame : a.command = entry.transaction.command := by
      obtain ⟨before, after, rfl⟩ := List.append_of_mem hentry
      obtain ⟨a', r', hstep, -⟩ := h.stepped hstored
      obtain rfl : a' = a := Option.some.inj (hstep.applied.symm.trans happlied)
      exact hstep.command
    have hown := hdecisions entry hentry (Entry.isApplied_iff.mpr ⟨a.record, hstored⟩) record.input
      (hsame.symm.trans hcommand)
    exact hown.trans hw

/-- A store whose database encodes can be reopened exactly when it stored each decision under its own
workflow, and a file that opens is written back as it was exactly when its frames ascend. -/
theorem database_reopens_iff (rules : List LifecycleCapacityRule) (maximumRecords : Nat) :
    (∀ entries database bytes, StoreRun rules maximumRecords .empty entries database →
      encodeDatabase database = .ok bytes →
      ((Owned database.entries ∧ decodeDatabase bytes maximumRecords = .ok database) ↔
        OwnDecisions entries)) ∧
    ∀ bytes database, decodeDatabase bytes maximumRecords = .ok database →
      (encodeDatabase database = .ok bytes ↔ Ascending bytes) := by
  refine ⟨fun entries database bytes h hencode => ?_, fun bytes database h => encode_of_decode_iff h⟩
  rw [decode_of_encode_iff h.length_le hencode, and_self, h.owned_iff]

end Codec

section Sample

local instance sampleFileSha256 : Sha256 :=
  ⟨fun bytes => ⟨Sha2.sha256 bytes, Sha2.sha256_length bytes⟩⟩

/-- The record of the sample decision alone. -/
def sampleFirst : LifecycleRecord :=
  recordAfter (applyTransition none (.recordDecision sampleInput) (sampleContext 10)) []

/-- The serializer as far as the sample needs it: it writes every record and reads the one. -/
local instance sampleFilePostcard : Postcard where
  toAllocvec envelope := some (writeEnvelope envelope)
  fromBytes bytes := if bytes = writeEnvelope (wireEnvelope sampleFirst)
    then some (wireEnvelope sampleFirst) else none

/-- The sample decision, to be stored under the given key. -/
def sampleFiling (key : WorkflowId) : StoreTransaction :=
  ⟨key, none, .recordDecision sampleInput, sampleContext 10⟩

def sampleFiled (key : WorkflowId) : List Entry × LifecycleDatabase :=
  transactAll [] 8 [sampleFiling key]

theorem sampleFirst_canonical :
    sampleFirst.input = sampleInput ∧
      Canonical sampleFirst (writeEnvelope (wireEnvelope sampleFirst)) := by
  obtain ⟨first, hfirst, -, -⟩ := sampleInput_decided
  have hrecord : sampleFirst = first.record :=
    (congrArg (recordAfter · []) hfirst).trans (recordAfter_ok first [])
  obtain ⟨hlineage, hinput⟩ := lineage_first hfirst
  rw [← hrecord] at hlineage hinput
  refine ⟨hinput, ?_, ?_, ?_⟩
  · rw [hrecord]
    exact (@run_integrity_iff _ _ _ first [] hfirst (by simp)).mpr trivial
  · have hshort : (writeEnvelope (wireEnvelope sampleFirst)).length ≤ maxLifecycleRecordBytes := by
      decide +kernel
    exact encodeUnchecked_of_short rfl hshort
  · have hread : Postcard.fromBytes (writeEnvelope (wireEnvelope sampleFirst)) =
        some (wireEnvelope sampleFirst) := if_pos rfl
    have hwire := toRecord_wire (hinput ▸ sampleInput_derived) hlineage.entriesSettled
    rw [hinput, sampleInput_nonzero] at hwire
    exact (decodeWire_of_read hread).trans hwire

theorem capacitySnapshot_empty (key : WorkflowId) :
    capacitySnapshot .empty [] key = .ok (sampleContext 10).capacity := rfl

/-- The decision is stored under whatever key the transaction names. -/
theorem transact_sampleInput (key : WorkflowId) :
    transactDatabase .empty [] 8 (sampleFiling key) (fun _ => .ok ()) =
      (.ok ⟨sampleFirst, .applied⟩, SortedMap.empty.insert key sampleFirst) := by
  obtain ⟨first, hfirst, -, -⟩ := sampleInput_decided
  have hrecord : sampleFirst = first.record :=
    (congrArg (recordAfter · []) hfirst).trans (recordAfter_ok first [])
  have happlied : first.disposition = .applied := by
    rcases applyTransition_ok hfirst with ⟨happlied, -⟩ | ⟨-, hcurrent, -⟩
    · exact happlied
    · cases hcurrent
  have hcontext : ({ sampleContext 10 with capacity := (sampleContext 10).capacity } :
      TransitionContext) = sampleContext 10 := rfl
  have hroom : ¬8 ≤ (SortedMap.empty : LifecycleDatabase).entries.length := by decide
  unfold transactDatabase
  simp only [sampleFiling, SortedMap.get_empty, Option.map_none, capacitySnapshot_empty, ne_eq, not_true_eq_false,
    if_false, Option.isNone_none, Bool.true_and, decide_eq_true_eq, hroom, hcontext, hfirst, happlied,
    hrecord]

theorem transactAll_singleton (rules : List LifecycleCapacityRule) (maximumRecords : Nat)
    (transaction : StoreTransaction) :
    transactAll rules maximumRecords [transaction] =
      ([⟨transaction, capacitySnapshot .empty rules transaction.workflowId,
        (transactDatabase .empty rules maximumRecords transaction fun _ => .ok ()).1⟩],
      (transactDatabase .empty rules maximumRecords transaction fun _ => .ok ()).2) := rfl

theorem transactAll_singleton_database (rules : List LifecycleCapacityRule) (maximumRecords : Nat)
    (transaction : StoreTransaction) :
    (transactAll rules maximumRecords [transaction]).2 =
      (transactDatabase .empty rules maximumRecords transaction fun _ => .ok ()).2 := rfl

theorem ownDecisions_singleton {rules : List LifecycleCapacityRule} {maximumRecords : Nat}
    {transaction : StoreTransaction} (h : ∀ input, transaction.command = .recordDecision input →
      input.workflowId = transaction.workflowId) :
    OwnDecisions (transactAll rules maximumRecords [transaction]).1 := by
  rw [transactAll_singleton]
  intro entry hentry _ input hcommand
  rw [List.mem_singleton.mp hentry] at hcommand ⊢
  exact h input hcommand

theorem sampleInput_workflow : sampleInput.workflowId = sampleWorkflow := by
  decide +kernel

theorem encodeFrames_singleton (workflow : WorkflowId) {record : LifecycleRecord} {bytes : Bytes}
    (h : Canonical record bytes) :
    [(workflow, record)].mapM encodeFrame = .ok [frame workflow bytes] := by
  have hframe : encodeFrame (workflow, record) = .ok (frame workflow bytes) :=
    encodeFrame_eq_ok.mpr ⟨bytes, h, rfl⟩
  rw [List.mapM_cons, hframe]
  rfl

theorem owned_singleton {workflow : WorkflowId} {record : LifecycleRecord}
    (h : Owned [(workflow, record)]) : record.input.workflowId = workflow :=
  h _ (List.mem_singleton_self _)

theorem sampleFiled_stores (key : WorkflowId) :
    (sampleFiled key).2.entries = [(key, sampleFirst)] ∧
      ∃ bytes, encodeDatabase (sampleFiled key).2 = .ok bytes := by
  have hdatabase : (sampleFiled key).2 = SortedMap.empty.insert key sampleFirst := by
    have hsingle := transactAll_singleton_database [] 8 (sampleFiling key)
    have htransact := congrArg Prod.snd (transact_sampleInput key)
    exact hsingle.trans htransact
  have hentries : (sampleFiled key).2.entries = [(key, sampleFirst)] := by
    rw [hdatabase]
    exact List.perm_singleton.mp (SortedMap.entries_insert_perm .empty key sampleFirst)
  refine ⟨hentries, file [frame key (writeEnvelope (wireEnvelope sampleFirst))], ?_⟩
  have hcanonical := sampleFirst_canonical.2
  have hrecord := encodeUnchecked_length hcanonical.2.1
  have hkey := length_workflow key
  have hmagic : databaseMagic.length = 8 := by decide
  rw [encodeDatabase_eq_ok, hentries]
  refine ⟨by simp, ?_, _, ?_, rfl⟩
  · simp only [file, frame, List.length_append, Digest.length_eq, bigEndian_length, hmagic,
      List.flatten_cons, List.flatten_nil, List.length_nil]
    unfold maxLifecycleRecordBytes at hrecord
    unfold maxDatabaseBytes
    omega
  · exact encodeFrames_singleton key hcanonical

/-- A decision stored under another key leaves a database that encodes and cannot be reopened. -/
theorem misfiled_not_reopened :
    ∃ entries database bytes, StoreRun [] 8 .empty entries database ∧
      encodeDatabase database = .ok bytes ∧ ¬Owned database.entries ∧
      decodeDatabase bytes 8 ≠ .ok database := by
  let key : WorkflowId := ⟨"workflow-2", by decide +kernel⟩
  obtain ⟨hentries, bytes, hencode⟩ := sampleFiled_stores key
  have hrun : StoreRun [] 8 .empty (sampleFiled key).1 (sampleFiled key).2 :=
    storeRun_transactAll [] 8 [sampleFiling key]
  have howned : ¬Owned (sampleFiled key).2.entries := by
    rw [hentries]
    intro howned
    have hown := owned_singleton howned
    have hinput := congrArg DecisionInput.workflowId sampleFirst_canonical.1
    have hsame : sampleWorkflow = key := sampleInput_workflow.symm.trans (hinput.symm.trans hown)
    exact absurd hsame (by decide +kernel)
  refine ⟨_, _, bytes, hrun, hencode, howned, fun hdecode => howned ?_⟩
  exact (decode_of_encode_iff hrun.length_le hencode).mp hdecode

/-- Under its own key it can. -/
theorem sample_reopens : ∃ bytes, encodeDatabase (sampleFiled sampleWorkflow).2 = .ok bytes ∧
    decodeDatabase bytes 8 = .ok (sampleFiled sampleWorkflow).2 := by
  obtain ⟨-, bytes, hencode⟩ := sampleFiled_stores sampleWorkflow
  have hown : OwnDecisions (transactAll [] 8 [sampleFiling sampleWorkflow]).1 := by
    refine ownDecisions_singleton fun input hcommand => ?_
    have hinput : sampleInput = input := TransitionCommand.recordDecision.inj hcommand
    exact (congrArg DecisionInput.workflowId hinput.symm).trans sampleInput_workflow
  have hiff := (database_reopens_iff [] 8).1 _ _ bytes
    (storeRun_transactAll [] 8 [sampleFiling sampleWorkflow])
    hencode
  exact ⟨bytes, hencode, (hiff.mpr hown).2⟩

end Sample

end AuthsProof.Lifecycle
