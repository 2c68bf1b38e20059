import FastVoice.Recordings.RecordingTable
import FastVoice.Runtime.Machine

/-! # The cache of recordings

A file for each recording that was downloaded, under the identifier that the recording had then. A fetch
looks for a file under the key or the identifier that it is given, before it asks the database.
-/
namespace FastVoice.Recordings

abbrev Pcm := List Int16

/-- What a host relies on. `converted` is what ffmpeg makes of the object under a storage key. -/
structure AudioPlatform where
  converted : StorageBackend → (storageKey : String) → (sampleRate : Nat) → Pcm
  speakingThreshold : Int
  takesFile : String → Bool

def isSpeech (threshold : Int) (frame : Pcm) : Bool := frame.any fun sample => threshold < sample.abs.toInt

/-- A rate below a hundred has frames without samples, and the division by their size raises. -/
def trimSilence (threshold : Int) (data : Pcm) (sampleRate : Nat) : Option Pcm :=
  let frameSize := sampleRate / 100
  let numFrames := data.length / frameSize
  let spoken (i : Nat) : Bool := isSpeech threshold ((data.drop (i * frameSize)).take frameSize)
  if frameSize = 0 then
    none
  else if numFrames = 0 then
    some data
  else
    match (List.range numFrames).find? spoken with
    | none => some data
    | some firstSpeech =>
      let lastSpeech := ((List.range numFrames).reverse.find? spoken).getD firstSpeech
      some ((data.take ((lastSpeech + 1) * frameSize)).drop (firstSpeech * frameSize))

/-- The name of the file below the directory of the cache. -/
def cachePath (organizationId : Nat) (key : String) (sampleRate : Nat) : String :=
  toString organizationId ++ "_" ++ key ++ "_" ++ toString sampleRate ++ ".pcm"

structure Download where
  recording : StoredRecording
  sampleRate : Nat

variable (p : AudioPlatform)

def AudioPlatform.audio (recording : StoredRecording) (sampleRate : Nat) : Option Pcm :=
  match p.converted recording.storageBackend recording.storageKey sampleRate with
  | [] => none
  | pcm => trimSilence p.speakingThreshold pcm sampleRate

abbrev AudioFiles := ReadThrough String fun download : Download => p.audio download.recording download.sampleRate

variable {p}

/-- Writing a file that the file system does not take raises, and the download comes to nothing. -/
def downloadAndConvert (files : AudioFiles p) (recording : StoredRecording) (sampleRate : Nat) :
    Option Pcm × AudioFiles p :=
  match hAudio : p.audio recording sampleRate with
  | none => (none, files)
  | some pcm =>
    let cached := cachePath recording.organizationId recording.recordingId sampleRate
    if p.takesFile cached then
      (some pcm, files.put cached ⟨recording, sampleRate⟩ pcm hAudio)
    else
      (none, files)

structure RecordingAudio where
  audio : Pcm
  transcript : Option String
  deriving DecidableEq

/-- The callback that `create_recording_audio_fetcher` returns, with the transcripts that it remembers. -/
structure Fetcher where
  organizationId : Nat
  pipelineSampleRate : Nat
  transcripts : List (String × Option String) := []

def FetchRequest.cacheKey (request : FetchRequest) : Option String :=
  match request.recordingPk with
  | some pk => some (toString pk)
  | none => request.recordingId

namespace Fetcher

def remember (fetcher : Fetcher) (key : String) (recording : StoredRecording) : Fetcher :=
  { fetcher with
    transcripts :=
      (key, if recording.transcript = "" then none else some recording.transcript) :: fetcher.transcripts }

def transcript (fetcher : Fetcher) (key : String) : Option String := (fetcher.transcripts.lookup key).join

def fetch (fetcher : Fetcher) (recordings : RecordingTable) (request : FetchRequest) (files : AudioFiles p) :
    Option RecordingAudio × Fetcher × AudioFiles p :=
  match request.cacheKey with
  | none => (none, fetcher, files)
  | some key =>
    let recording := recordings.lookupRecording fetcher.organizationId request
    match files.find (cachePath fetcher.organizationId key fetcher.pipelineSampleRate) with
    | some audio =>
      let fetcher :=
        match fetcher.transcripts.lookup key, recording with
        | none, some recording => fetcher.remember key recording
        | _, _ => fetcher
      (some ⟨audio, fetcher.transcript key⟩, fetcher, files)
    | none =>
      match recording with
      | none => (none, fetcher, files)
      | some recording =>
        let fetcher := fetcher.remember key recording
        let (pcmData, files) := downloadAndConvert files recording fetcher.pipelineSampleRate
        (pcmData.map (⟨·, fetcher.transcript key⟩), fetcher, files)

end Fetcher

/-- A recording that cannot be loaded is passed over. -/
def warmRecordingCache (recordings : RecordingTable) (organizationId sampleRate : Nat) (files : AudioFiles p) :
    AudioFiles p :=
  let uncached := (recordings.getRecordings organizationId).filter fun recording =>
    (files.find (cachePath organizationId (toString recording.id) sampleRate)).isNone &&
      (files.find (cachePath organizationId recording.recordingId sampleRate)).isNone
  uncached.foldl (fun files recording => (downloadAndConvert files recording sampleRate).2) files

variable (p) in
/-- The files of one host beside the database, and the fetchers of its calls. -/
structure AudioHost where
  recordings : RecordingTable
  files : AudioFiles p
  fetchers : List Fetcher

inductive RecordingEvent where
  | create (organizationId : Nat) (backend : StorageBackend) (request : BatchRecordingCreateRequest)
  | rename (organizationId : Nat) (id : Int) (request : RecordingUpdateRequest)
  | delete (organizationId : Nat) (recordingId : String)
  | warm (organizationId sampleRate : Nat)
  | openFetcher (organizationId pipelineSampleRate : Nat)
  | fetch (fetcher : Nat) (request : FetchRequest)

namespace AudioHost

def start : AudioHost p := ⟨.empty, .empty, []⟩

def settle (host : AudioHost p) : Except HTTPException RecordingTable → AudioHost p
  | .error _ => host
  | .ok recordings => { host with recordings }

def step (host : AudioHost p) : RecordingEvent → Option (AudioHost p)
  | .create organizationId backend request =>
    let (_, recordings) := createRecordings organizationId backend request.recordings host.recordings
    some { host with recordings }
  | .rename organizationId id request =>
    some (host.settle (updateRecording host.recordings id request organizationId))
  | .delete organizationId recordingId =>
    some (host.settle (deleteRecording host.recordings recordingId organizationId))
  | .warm organizationId sampleRate =>
    some { host with files := warmRecordingCache host.recordings organizationId sampleRate host.files }
  | .openFetcher organizationId pipelineSampleRate =>
    some { host with fetchers := host.fetchers ++ [{ organizationId, pipelineSampleRate }] }
  | .fetch i request =>
    host.fetchers[i]?.map fun fetcher =>
      let (_, fetcher, files) := fetcher.fetch host.recordings request host.files
      { host with files, fetchers := host.fetchers.set i fetcher }

end AudioHost

variable (p) in
def audioHost : Machine (AudioHost p) RecordingEvent := ⟨AudioHost.step⟩

end FastVoice.Recordings

/-! # The right audio

A fetch gives the audio of the recording that it names, exactly if what was downloaded last under its key has
that audio, and where nothing was, a file can be written for the recording.
-/
namespace FastVoice.Recordings

variable {p : AudioPlatform}

theorem audio_downloadAndConvert (files : AudioFiles p) (recording : StoredRecording) (sampleRate : Nat) :
    (downloadAndConvert files recording sampleRate).1 = (p.audio recording sampleRate).filter fun _ =>
      p.takesFile (cachePath recording.organizationId recording.recordingId sampleRate) := by
  unfold downloadAndConvert
  split
  · rename_i hAudio
    simp [hAudio]
  · rename_i pcm hAudio
    have hFiltered : ∀ takes : Bool, (p.audio recording sampleRate).filter (fun _ => takes) =
        if takes = true then some pcm else none := by
      rw [hAudio]
      intro takes
      rfl
    rw [hFiltered]
    dsimp only
    cases p.takesFile (cachePath recording.organizationId recording.recordingId sampleRate) with
    | true => rfl
    | false => rfl

theorem audio_fetch {fetcher : Fetcher} {recordings : RecordingTable} {request : FetchRequest}
    {files : AudioFiles p} {key : String} (hKey : request.cacheKey = some key) :
    (fetcher.fetch recordings request files).1.map (·.audio) =
      match files.find (cachePath fetcher.organizationId key fetcher.pipelineSampleRate) with
      | some audio => some audio
      | none => (recordings.lookupRecording fetcher.organizationId request).bind fun recording =>
        (downloadAndConvert files recording fetcher.pipelineSampleRate).1 := by
  simp only [Fetcher.fetch, hKey]
  cases files.find (cachePath fetcher.organizationId key fetcher.pipelineSampleRate) with
  | some audio => rfl
  | none =>
    cases recordings.lookupRecording fetcher.organizationId request with
    | none => rfl
    | some recording =>
      simp only [Option.map_map, Option.bind_some]
      exact Option.map_id'

theorem lookup_of_no_key {recordings : RecordingTable} {organizationId : Nat} {request : FetchRequest}
    (h : request.cacheKey = none) : recordings.lookupRecording organizationId request = none := by
  obtain ⟨recordingPk, recordingId⟩ := request
  cases recordingPk with
  | some pk => cases h
  | none =>
    obtain rfl : recordingId = none := h
    rfl

variable (p) in
/-- The audio of the active recording that a request names, none where it names none. -/
structure GivesRight (recordings : RecordingTable) (organizationId sampleRate : Nat) (request : FetchRequest)
    (audio : Option Pcm) : Prop where
  named : ∀ recording ∈ recordings.rows, Names organizationId request recording →
    audio = p.audio recording sampleRate
  unnamed : (∀ recording ∈ recordings.rows, ¬Names organizationId request recording) → audio = none

theorem givesRight_iff {recordings : RecordingTable} {organizationId sampleRate : Nat} {request : FetchRequest}
    {audio : Option Pcm} : GivesRight p recordings organizationId sampleRate request audio ↔
      audio = (recordings.lookupRecording organizationId request).bind fun recording =>
        p.audio recording sampleRate := by
  constructor
  · rintro ⟨hNamed, hUnnamed⟩
    cases hLookup : recordings.lookupRecording organizationId request with
    | none =>
      apply hUnnamed
      intro recording hRow hNames
      simp [lookup_of_names hRow hNames] at hLookup
    | some recording =>
      obtain ⟨hRow, hNames⟩ := names_of_lookup hLookup
      exact hNamed recording hRow hNames
  · rintro rfl
    constructor
    · intro recording hRow hNames
      simp [lookup_of_names hRow hNames]
    · intro hNone
      cases hLookup : recordings.lookupRecording organizationId request with
      | none => rfl
      | some recording =>
        obtain ⟨hRow, hNames⟩ := names_of_lookup hLookup
        exact (hNone recording hRow hNames).elim

def ServesRight (host : AudioHost p) : RecordingEvent → Prop
  | .fetch i request => ∀ fetcher ∈ host.fetchers[i]?,
    GivesRight p host.recordings fetcher.organizationId fetcher.pipelineSampleRate request
      ((fetcher.fetch host.recordings request host.files).1.map (·.audio))
  | _ => True

/-- What was downloaded last under the key of a fetch sounds like the recording that it names. Where nothing
was, the recording that it names can be written to a file. -/
def NamesItsDownload (host : AudioHost p) : RecordingEvent → Prop
  | .fetch i request => ∀ fetcher ∈ host.fetchers[i]?, ∀ key ∈ request.cacheKey,
    match host.files.last (cachePath fetcher.organizationId key fetcher.pipelineSampleRate) with
    | some download => ∃ recording ∈ host.recordings.rows, Names fetcher.organizationId request recording ∧
      p.audio recording fetcher.pipelineSampleRate = p.audio download.recording download.sampleRate
    | none => ∀ recording ∈ host.recordings.rows, Names fetcher.organizationId request recording →
      (p.audio recording fetcher.pipelineSampleRate).isSome = true →
        p.takesFile (cachePath recording.organizationId recording.recordingId fetcher.pipelineSampleRate) = true
  | _ => True

theorem filter_eq_self_iff {α : Type} {audio : Option α} {b : Bool} :
    (audio.filter fun _ => b) = audio ↔ (audio.isSome = true → b = true) := by
  cases audio <;> cases b <;> simp

theorem downloads_right_iff {files : AudioFiles p} {recordings : RecordingTable} {organizationId sampleRate : Nat}
    {request : FetchRequest} : ((recordings.lookupRecording organizationId request).bind fun recording =>
        (downloadAndConvert files recording sampleRate).1) =
      ((recordings.lookupRecording organizationId request).bind fun recording => p.audio recording sampleRate) ↔
    ∀ recording ∈ recordings.rows, Names organizationId request recording →
      (p.audio recording sampleRate).isSome = true →
        p.takesFile (cachePath recording.organizationId recording.recordingId sampleRate) = true := by
  cases hLookup : recordings.lookupRecording organizationId request with
  | none =>
    refine iff_of_true rfl ?_
    intro recording hRow hNames
    simp [lookup_of_names hRow hNames] at hLookup
  | some recording =>
    obtain ⟨hRow, hNames⟩ := names_of_lookup hLookup
    simp only [Option.bind_some, audio_downloadAndConvert, filter_eq_self_iff]
    constructor
    · intro h other hOther hOtherNames
      rw [hOtherNames.unique hOther hRow hNames]
      exact h
    · intro h
      exact h recording hRow hNames

theorem servesRight_iff (host : AudioHost p) (event : RecordingEvent) :
    ServesRight host event ↔ NamesItsDownload host event := by
  cases event with
  | fetch i request =>
    refine forall_congr' fun fetcher => imp_congr_right fun _ => ?_
    rw [givesRight_iff]
    cases hKey : request.cacheKey with
    | none =>
      refine iff_of_true ?_ nofun
      rw [lookup_of_no_key hKey]
      simp [Fetcher.fetch, hKey]
    | some key =>
      rw [audio_fetch hKey]
      have hOnly : ∀ P : String → Prop, (∀ name ∈ some key, P name) ↔ P key := by simp
      rw [hOnly]
      obtain ⟨hFind, hLast⟩ | ⟨download, pcm, hFind, hLast, hAudio⟩ :=
        host.files.find_eq (cachePath fetcher.organizationId key fetcher.pipelineSampleRate)
      · rw [hFind, hLast]
        exact downloads_right_iff
      · rw [hFind, hLast]
        dsimp only
        rw [hAudio, eq_comm, Option.bind_eq_some_iff]
        simp only [lookup_eq_some_iff, and_assoc]
  | create organizationId backend request => exact Iff.rfl
  | rename organizationId id request => exact Iff.rfl
  | delete organizationId recordingId => exact Iff.rfl
  | warm organizationId sampleRate => exact Iff.rfl
  | openFetcher organizationId pipelineSampleRate => exact Iff.rfl

/-- Over any run, the fetches give the right audio exactly if each finds, under its key, the download of a
recording that sounds like the one it names. -/
theorem serves_right_iff (p : AudioPlatform) (events : List RecordingEvent) :
    (audioHost p).Follows ServesRight .start events ↔ (audioHost p).Follows NamesItsDownload .start events :=
  Machine.follows_congr servesRight_iff

def twoRecordings : AudioPlatform where
  converted _ storageKey _ := if storageKey = "a.wav" then [1] else [2]
  speakingThreshold := 20
  takesFile _ := true

def createOne (recordingId storageKey : String) : RecordingEvent :=
  .create 1 .s3 ⟨[⟨recordingId, "", storageKey⟩], Nat.le_refl 1, Nat.le_add_left 1 19⟩

def takenName : List RecordingEvent :=
  [createOne "greeting" "a.wav", .warm 1 8000,
    .rename 1 1 ⟨"welcome", by decide, by decide⟩, createOne "greeting" "b.wav", .openFetcher 1 8000]

theorem taken_name_serves_other : ¬ ∀ (p : AudioPlatform) (events : List RecordingEvent),
    (audioHost p).Follows ServesRight .start events := by
  intro h
  have hAll := h twoRecordings (takenName ++ [.fetch 0 { recordingId := some "greeting" }])
  have hRun : (audioHost twoRecordings).run .start takenName =
      some (((audioHost twoRecordings).run .start takenName).getD .start) := rfl
  have hRight := givesRight_iff.mp (hAll.of_run hRun _ rfl)
  exact absurd hRight (by decide +kernel)

end FastVoice.Recordings
