import AmazonSimilarSearch.Foundation.Bytes
import AmazonSimilarSearch.Foundation.RaisingStep
import AmazonSimilarSearch.JsonEditor.IndentedJson

/-!
# Writing JSON through a temporary file

`write_json` fills a temporary file beside the destination and moves it there. Its
`finally` block removes the file that `temporary_path` names, and this is set only after
everything was written, flushed and synchronised: what fails before leaves the file.
-/
namespace AmazonSimilarSearch.JsonEditor
open Foundation RaisingStep

/-- The files beside the destination, by name. -/
abbrev Directory := String → Option Bytes

/-- What the system does for one call: each step of it succeeds or fails. -/
structure Host where
  /-- `path.parent.mkdir(parents=True, exist_ok=True)` -/
  makesParents : Bool
  /-- the random part of a name under which the temporary file is opened -/
  opens : Option String
  /-- the writes of the call, by number -/
  writes : ℕ → Bool
  flushes : Bool
  syncs : Bool
  closes : Bool
  replaces : Bool
  unlinks : Bool

structure State where
  files : Directory
  /-- what was written and not flushed -/
  buffered : String
  /-- how many writes there were -/
  written : ℕ
  temporaryPath : Option String

/-! ## The steps -/

section Steps

variable (host : Host) (temporary : String)

/-- `temporary_file.write(text)` -/
def write (text : String) : RaisingStep State := fun state =>
  (host.writes state.written,
    { state with
      written := state.written + 1
      buffered := if host.writes state.written then state.buffered ++ text else state.buffered })

/-- `json.dump(data, temporary_file, ensure_ascii=False, indent=2)` -/
def dump (data : Data) : RaisingStep State :=
  (inOrder ((iterencode 0 data).texts.map (write host))).andThen
    (check (iterencode 0 data).complete)

/-- What was written reaches the file. -/
def drain (state : State) : State :=
  { state with
    files := Function.update state.files temporary
      (some ((state.files temporary).getD [] ++ encodeUtf8 state.buffered))
    buffered := "" }

def flush : RaisingStep State := (check host.flushes).andThen (change (drain temporary))

/-- The file is closed, and what was not flushed is now. -/
def close : RaisingStep State := (check host.closes).andThen (change (drain temporary))

/-- What is written before the temporary file is recorded. -/
def fill (data : Data) : RaisingStep State :=
  (dump host data).andThen ((write host "\n").andThen
    ((flush host temporary).andThen (check host.syncs)))

/-- `temporary_path = Path(temporary_file.name)` -/
def record (state : State) : State := { state with temporaryPath := some temporary }

/-- The body of the `with` statement, and the file is closed in any case. -/
def withTemporaryFile (data : Data) : RaisingStep State :=
  ((fill host temporary data).andThen (change (record temporary))).inAnyCase
    (close host temporary)

end Steps

/-- `f".{path.name}."`, a random part and `".tmp"` -/
def temporaryName (name random : String) : String := "." ++ name ++ "." ++ random ++ ".tmp"

/-- `tempfile.NamedTemporaryFile(…, delete=False)`: the name of a new and empty file. -/
def Host.temporaryFile (host : Host) (name : String) (files : Directory) : Option String :=
  (host.opens.map (temporaryName name)).filter fun temporary => (files temporary).isNone

def create (temporary : String) (state : State) : State :=
  { state with files := Function.update state.files temporary (some []) }

/-- `temporary_path.replace(path)` -/
def replace (host : Host) (name : String) : RaisingStep State := fun state =>
  match state.temporaryPath with
  | none => (false, state)
  | some temporary =>
      (check host.replaces).andThen (change fun state => { state with
        files := Function.update (Function.update state.files name (state.files temporary))
          temporary none }) state

/-- The `finally` block. -/
def removeTemporary (host : Host) : RaisingStep State := fun state =>
  match state.temporaryPath with
  | none => (true, state)
  | some temporary =>
      if (state.files temporary).isSome then
        (check host.unlinks).andThen (change fun state => { state with
          files := Function.update state.files temporary none }) state
      else (true, state)

/-- The `try` block. -/
def saveThrough (host : Host) (name : String) (data : Data) : RaisingStep State := fun state =>
  match host.temporaryFile name state.files with
  | none => (false, state)
  | some temporary =>
      ((change (create temporary)).andThen ((withTemporaryFile host temporary data).andThen
        (replace host name))) state

/-- Whether the call returns, and the files after it. -/
def writeJson (host : Host) (name : String) (data : Data) (before : Directory) :
    Bool × Directory :=
  let final := (check host.makesParents).andThen
    ((saveThrough host name data).inAnyCase (removeTemporary host)) ⟨before, "", 0, none⟩
  (final.1, final.2.files)

/-! ## All or nothing -/

/-- The complete encoding of the data. -/
def encoded (data : Data) : Bytes := encodeUtf8 (dumpText data ++ "\n")

/-- A call that raises leaves the files as they were; one that returns leaves the complete
encoding in the destination, and every other file as it was. -/
def AllOrNothing (name : String) (data : Data) (before : Directory) :
    Bool × Directory → Prop
  | (false, after) => after = before
  | (true, after) =>
      data.encodable = true ∧ after = Function.update before name (some (encoded data))

/-- Everything can be written, flushed and synchronised. -/
structure Fills (host : Host) (data : Data) : Prop where
  encodable : data.encodable = true
  writes : ∀ n ≤ (iterencode 0 data).texts.length, host.writes n = true
  flushes : host.flushes = true
  syncs : host.syncs = true

/-- Where a temporary file is created, it is filled; and it is moved, or else removed. -/
def Recorded (host : Host) (name : String) (data : Data) (before : Directory) : Prop :=
  host.makesParents = true → ∀ temporary ∈ host.temporaryFile name before,
    Fills host data ∧ ((host.closes = true ∧ host.replaces = true) ∨ host.unlinks = true)

/-! ## Before the temporary file is recorded -/

/-- Nothing is recorded, and the temporary file is there beside the files as they were. -/
structure Unrecorded (temporary : String) (before : Directory) (state : State) : Prop where
  temporaryPath : state.temporaryPath = none
  isSome : (state.files temporary).isSome = true
  others : ∀ file ≠ temporary, state.files file = before file

section Steps

variable {host : Host} {temporary : String} {before : Directory} {data : Data}

theorem keeps_write (text : String) : (write host text).Keeps (Unrecorded temporary before) :=
  fun _ h => ⟨h.temporaryPath, h.isSome, h.others⟩

theorem keeps_drain : (change (drain temporary)).Keeps (Unrecorded temporary before) := by
  apply keeps_change
  intro state h
  refine ⟨h.temporaryPath, ?_, ?_⟩
  · simp [drain]
  · intro file hfile
    simp [drain, hfile, h.others file hfile]

theorem keeps_close : (close host temporary).Keeps (Unrecorded temporary before) :=
  (keeps_check _).andThen keeps_drain

/-- Whatever fails while the file is filled, it is still there and nothing names it. -/
theorem keeps_fill : (fill host temporary data).Keeps (Unrecorded temporary before) := by
  have hdump : (dump host data).Keeps (Unrecorded temporary before) := by
    refine (keeps_inOrder ?_).andThen (keeps_check _)
    intro step hstep
    obtain ⟨text, -, rfl⟩ := List.mem_map.mp hstep
    exact keeps_write text
  exact hdump.andThen ((keeps_write _).andThen
    (((keeps_check _).andThen keeps_drain).andThen (keeps_check _)))

/-- The writes return as long as none of them fails, and then all of the text is buffered. -/
theorem inOrder_write (texts : List String) (state : State)
    (h : ∀ n < texts.length, host.writes (state.written + n) = true) :
    inOrder (texts.map (write host)) state =
      (true, { state with
        written := state.written + texts.length
        buffered := texts.foldl (· ++ ·) state.buffered }) := by
  induction texts generalizing state with
  | nil => rfl
  | cons text texts ih =>
      have hfirst : host.writes state.written = true := h 0 (Nat.zero_lt_succ _)
      have hwrite : write host text state = (true, { state with
          written := state.written + 1
          buffered := state.buffered ++ text }) := by
        rw [write, hfirst]
        rfl
      rw [List.map_cons, inOrder_cons, andThen_of_returns hwrite, ih]
      · simp only [List.length_cons, List.foldl_cons]
        congr 2
        omega
      · intro n hn
        have hnext := h (n + 1) (Nat.succ_lt_succ hn)
        rwa [Nat.add_comm n 1, ← Nat.add_assoc] at hnext

theorem writes_of_returns (texts : List String) (state : State)
    (h : (inOrder (texts.map (write host)) state).1 = true) :
    ∀ n < texts.length, host.writes (state.written + n) = true := by
  induction texts generalizing state with
  | nil => exact fun n hn => absurd hn (Nat.not_lt_zero n)
  | cons text texts ih =>
      rw [List.map_cons, inOrder_cons, returns_andThen] at h
      intro n hn
      cases n with
      | zero => exact h.1
      | succ n =>
          have hrest := ih _ h.2 n (Nat.lt_of_succ_lt_succ hn)
          rwa [write, Nat.add_assoc, Nat.add_comm 1 n] at hrest

theorem dump_of_writes (hencodable : data.encodable = true)
    (hwrites : ∀ n < (iterencode 0 data).texts.length, host.writes n = true) (files : Directory) :
    dump host data ⟨files, "", 0, none⟩ =
      (true, ⟨files, dumpText data, (iterencode 0 data).texts.length, none⟩) := by
  have hpieces := inOrder_write (iterencode 0 data).texts ⟨files, "", 0, none⟩ fun n hn => by
    rw [Nat.zero_add]
    exact hwrites n hn
  rw [dump, andThen_of_returns hpieces, complete_iterencode, hencodable, Nat.zero_add]
  rfl

/-- The temporary file holds the complete encoding once it is filled. -/
theorem fill_of_fills (temporary : String) (before : Directory) (h : Fills host data) :
    ∃ written, fill host temporary data
        ⟨Function.update before temporary (some []), "", 0, none⟩ =
      (true, ⟨Function.update before temporary (some (encoded data)), "", written, none⟩) := by
  have hlast : host.writes (iterencode 0 data).texts.length = true := h.writes _ le_rfl
  refine ⟨(iterencode 0 data).texts.length + 1, ?_⟩
  rw [fill, andThen_of_returns (dump_of_writes h.encodable (fun n hn => h.writes n hn.le) _)]
  simp [RaisingStep.andThen, write, flush, check, change, drain, hlast, h.flushes, h.syncs, encoded]

theorem fills_of_returns {files : Directory}
    (h : (fill host temporary data ⟨files, "", 0, none⟩).1 = true) : Fills host data := by
  rw [fill, returns_andThen] at h
  obtain ⟨hdump, hrest⟩ := h
  rw [dump, returns_andThen, check, complete_iterencode] at hdump
  obtain ⟨hpieces, hencodable⟩ := hdump
  have hwrites : ∀ n < (iterencode 0 data).texts.length, host.writes n = true := by
    intro n hn
    have hwrite := writes_of_returns _ _ hpieces n hn
    rwa [Nat.zero_add] at hwrite
  rw [dump_of_writes hencodable hwrites, returns_andThen, returns_andThen, flush,
    returns_andThen] at hrest
  obtain ⟨hlast, ⟨hflushes, -⟩, hsyncs⟩ := hrest
  refine ⟨hencodable, ?_, hflushes, hsyncs⟩
  intro n hn
  cases hn.lt_or_eq with
  | inl hn => exact hwrites n hn
  | inr hn => exact hn ▸ hlast

/-- A temporary file that is not filled stays, and the body raises. -/
theorem withTemporaryFile_of_not_fills (temporary : String) (before : Directory) (h : ¬ Fills host data) :
    ∃ after, withTemporaryFile host temporary data
        ⟨Function.update before temporary (some []), "", 0, none⟩ = (false, after) ∧
      Unrecorded temporary before after := by
  have hopened : Unrecorded temporary before
      ⟨Function.update before temporary (some []), "", 0, none⟩ :=
    ⟨rfl, by simp, fun file hfile => by simp [hfile]⟩
  have hraises : (fill host temporary data
      ⟨Function.update before temporary (some []), "", 0, none⟩).1 = false :=
    Bool.eq_false_iff.mpr fun hreturns => h (fills_of_returns hreturns)
  have hfilled : Unrecorded temporary before
      (fill host temporary data ⟨Function.update before temporary (some []), "", 0, none⟩).2 :=
    keeps_fill _ hopened
  have hclosed : Unrecorded temporary before (close host temporary
      (fill host temporary data ⟨Function.update before temporary (some []), "", 0, none⟩).2).2 :=
    keeps_close _ hfilled
  refine ⟨_, ?_, hclosed⟩
  rw [withTemporaryFile, inAnyCase, andThen_of_raises hraises, hraises]
  rfl

/-- A temporary file that is filled is recorded, whether or not it can be closed. -/
theorem withTemporaryFile_of_fills (temporary : String) (before : Directory) (h : Fills host data) :
    ∃ written, withTemporaryFile host temporary data
        ⟨Function.update before temporary (some []), "", 0, none⟩ =
      (host.closes, ⟨Function.update before temporary (some (encoded data)), "", written,
        some temporary⟩) := by
  obtain ⟨written, hfill⟩ := fill_of_fills temporary before h
  refine ⟨written, ?_⟩
  have hempty : encodeUtf8 "" = [] := rfl
  rw [withTemporaryFile, inAnyCase, andThen_of_returns hfill]
  cases hcloses : host.closes with
  | true => simp [close, RaisingStep.andThen, check, change, drain, record, hcloses, hempty]
  | false => simp [close, RaisingStep.andThen, check, change, record, hcloses]

end Steps

/-! ## The call -/

theorem temporaryName_ne (name random : String) : temporaryName name random ≠ name := by
  intro h
  have hlength := congrArg String.length h
  simp only [temporaryName, String.length_append] at hlength
  have hdot : ".".length = 1 := by decide
  omega

theorem of_mem_temporaryFile {host : Host} {name temporary : String} {files : Directory}
    (h : temporary ∈ host.temporaryFile name files) :
    temporary ≠ name ∧ files temporary = none := by
  obtain ⟨hopens, hfree⟩ := Option.mem_filter_iff.mp h
  obtain ⟨random, -, rfl⟩ := Option.map_eq_some_iff.mp hopens
  exact ⟨temporaryName_ne name random, Option.isNone_iff_eq_none.mp hfree⟩

section Call

variable {host : Host} {name temporary : String} {data : Data} {before : Directory}

/-- The `try` statement, from the state in which the call starts. -/
theorem writeJson_of_temporaryFile (hparents : host.makesParents = true)
    (htemporary : host.temporaryFile name before = some temporary) :
    writeJson host name data before =
      let final := ((withTemporaryFile host temporary data).andThen (replace host name)).inAnyCase
        (removeTemporary host) ⟨Function.update before temporary (some []), "", 0, none⟩
      (final.1, final.2.files) := by
  have hsave : saveThrough host name data ⟨before, "", 0, none⟩ =
      (withTemporaryFile host temporary data).andThen (replace host name)
        ⟨Function.update before temporary (some []), "", 0, none⟩ := by
    rw [saveThrough, htemporary]
    rfl
  have hmade : check host.makesParents (⟨before, "", 0, none⟩ : State) =
      (true, ⟨before, "", 0, none⟩) := by
    rw [hparents]
    rfl
  rw [writeJson, andThen_of_returns hmade, inAnyCase, hsave]
  rfl

/-- Without a temporary file nothing is changed. -/
theorem writeJson_of_nothing
    (h : host.makesParents = true → host.temporaryFile name before = none) :
    writeJson host name data before = (false, before) := by
  cases hparents : host.makesParents with
  | false => simp [writeJson, RaisingStep.andThen, check, hparents]
  | true =>
      simp [writeJson, RaisingStep.andThen, check, hparents, inAnyCase, saveThrough, h hparents,
        removeTemporary]

theorem writeJson_of_not_fills (hparents : host.makesParents = true)
    (htemporary : host.temporaryFile name before = some temporary) (h : ¬ Fills host data) :
    ∃ after, writeJson host name data before = (false, after) ∧
      (after temporary).isSome = true := by
  obtain ⟨after, hwith, hafter⟩ :=
    withTemporaryFile_of_not_fills temporary before h
  refine ⟨after.files, ?_, hafter.isSome⟩
  have hraises := congrArg Prod.fst hwith
  rw [writeJson_of_temporaryFile hparents htemporary, inAnyCase, andThen_of_raises hraises, hwith]
  simp [removeTemporary, hafter.temporaryPath]

/-- The files after the temporary file was filled: it is moved, removed, or stays. -/
theorem writeJson_of_fills (hparents : host.makesParents = true)
    (htemporary : host.temporaryFile name before = some temporary) (h : Fills host data) :
    writeJson host name data before =
      if host.closes = true ∧ host.replaces = true then
        (true, Function.update before name (some (encoded data)))
      else (false, if host.unlinks = true then before
        else Function.update before temporary (some (encoded data))) := by
  obtain ⟨hne, hnew⟩ := of_mem_temporaryFile (Option.mem_def.mpr htemporary)
  obtain ⟨written, hwith⟩ :=
    withTemporaryFile_of_fills temporary before h
  have hremoved : Function.update (Function.update before temporary (some (encoded data)))
      temporary none = before := by
    rw [Function.update_idem, ← hnew, Function.update_eq_self]
  have hmoved : Function.update (Function.update (Function.update before temporary
      (some (encoded data))) name (some (encoded data))) temporary none =
      Function.update before name (some (encoded data)) := by
    rw [Function.update_comm hne.symm, hremoved]
  rw [writeJson_of_temporaryFile hparents htemporary, inAnyCase]
  cases hcloses : host.closes with
  | false =>
      rw [hcloses] at hwith
      rw [andThen_of_raises (congrArg Prod.fst hwith), hwith]
      cases hunlinks : host.unlinks <;>
        simp [removeTemporary, RaisingStep.andThen, check, change, hunlinks, hremoved]
  | true =>
      rw [hcloses] at hwith
      rw [andThen_of_returns hwith]
      cases hreplaces : host.replaces with
      | true =>
          simp [replace, removeTemporary, RaisingStep.andThen, check, change, hreplaces, hmoved, hne,
            hnew]
      | false =>
          cases hunlinks : host.unlinks <;>
            simp [replace, removeTemporary, RaisingStep.andThen, check, change, hreplaces, hunlinks,
              hremoved]

theorem allOrNothing_of_temporaryFile (hparents : host.makesParents = true)
    (htemporary : host.temporaryFile name before = some temporary) :
    AllOrNothing name data before (writeJson host name data before) ↔
      Fills host data ∧
        ((host.closes = true ∧ host.replaces = true) ∨ host.unlinks = true) := by
  have hnew := (of_mem_temporaryFile (Option.mem_def.mpr htemporary)).2
  by_cases hfills : Fills host data
  · rw [writeJson_of_fills hparents htemporary hfills]
    by_cases hmoved : host.closes = true ∧ host.replaces = true
    · rw [if_pos hmoved]
      exact iff_of_true ⟨hfills.encodable, rfl⟩ ⟨hfills, Or.inl hmoved⟩
    · rw [if_neg hmoved]
      cases hunlinks : host.unlinks with
      | true => exact iff_of_true rfl ⟨hfills, Or.inr rfl⟩
      | false =>
          apply iff_of_false
          · intro hafter
            have hkept := congrFun hafter temporary
            simp [hnew] at hkept
          · exact fun h => h.2.elim hmoved Bool.false_ne_true
  · obtain ⟨after, hafter, hkept⟩ := writeJson_of_not_fills hparents htemporary hfills
    rw [hafter]
    apply iff_of_false
    · intro hsame
      rw [show after = before from hsame, hnew] at hkept
      exact absurd hkept (by decide)
    · exact fun h => hfills h.1

end Call

/-- A call is all or nothing exactly when the temporary file it creates, if it creates one, is
filled without a failure, and is then moved or else removed. -/
theorem writeJson_allOrNothing_iff (host : Host) (name : String) (data : Data)
    (before : Directory) :
    AllOrNothing name data before (writeJson host name data before) ↔
      Recorded host name data before := by
  by_cases hcreated : host.makesParents = true ∧ (host.temporaryFile name before).isSome = true
  · obtain ⟨hparents, hsome⟩ := hcreated
    obtain ⟨temporary, htemporary⟩ := Option.isSome_iff_exists.mp hsome
    rw [allOrNothing_of_temporaryFile hparents htemporary]
    simp [Recorded, hparents, htemporary]
  · have hnothing : host.makesParents = true → host.temporaryFile name before = none :=
      fun hparents => Option.not_isSome_iff_eq_none.mp fun hsome => hcreated ⟨hparents, hsome⟩
    rw [writeJson_of_nothing hnothing]
    refine iff_of_true rfl fun hparents temporary hmem => ?_
    rw [hnothing hparents] at hmem
    exact absurd hmem (Option.not_mem_none temporary)

/-! ## Data that cannot be encoded -/

/-- A host on which nothing fails. -/
def workingHost : Host where
  makesParents := true
  opens := some "x"
  writes := fun _ => true
  flushes := true
  syncs := true
  closes := true
  replaces := true
  unlinks := true

/-- A `set` among the values: the temporary file of a call that raises `TypeError` stays. -/
theorem setValue_not_allOrNothing :
    ¬ AllOrNothing "scores.json" (.dict [(.str "terms", .other)]) (fun _ => none)
      (writeJson workingHost "scores.json" (.dict [(.str "terms", .other)]) fun _ => none) := by
  intro h
  have hfills : ¬ Fills workingHost (.dict [(.str "terms", .other)]) :=
    fun hfills => Bool.false_ne_true hfills.encodable
  have htemporary : workingHost.temporaryFile "scores.json" (fun _ => none) =
      some (temporaryName "scores.json" "x") := rfl
  obtain ⟨after, hafter, hkept⟩ := writeJson_of_not_fills rfl htemporary hfills
  rw [hafter] at h
  rw [show after = fun _ => none from h] at hkept
  exact Bool.false_ne_true hkept

end AmazonSimilarSearch.JsonEditor
