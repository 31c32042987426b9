/-
Sessions that get their name from the clock: the session of a mention
(`hub/dispatch/mention.rs`) and that of `/session new` without a name
(`hub/router.rs`, `hub/commands.rs`).  Both are written by an upsert
(`store/sessions.rs`), so a name that is taken empties its row.
-/
import IlinkHub.HubRuns

namespace IlinkHub

open Text Store

/-- A local time, as far as it is formatted.  A leap second has number 60. -/
structure LocalTime where
  year : Int
  month : Nat
  day : Nat
  hour : Nat
  minute : Nat
  second : Nat
  millis : Nat
  valid : month ≤ 12 ∧ day ≤ 31 ∧ hour ≤ 23 ∧ minute ≤ 59 ∧ second ≤ 60 ∧ millis ≤ 999

def yearSign (year : Int) : Char :=
  if year < 0 then '-' else '+'

/-- `%Y`: four digits, with a sign for the years that need more. -/
def yearDigits (year : Int) : List Char :=
  if 0 ≤ year ∧ year ≤ 9999 then fixedDigits 4 year.toNat
  else yearSign year :: paddedDigits 4 year.natAbs

namespace LocalTime

variable (time other : LocalTime)

/-- `%Y%m%d-%H%M%S`. -/
def stamp : List Char :=
  yearDigits time.year ++ fixedDigits 2 time.month ++ fixedDigits 2 time.day ++ ['-'] ++
    fixedDigits 2 time.hour ++ fixedDigits 2 time.minute ++ fixedDigits 2 time.second

/-- Both clocks show the same date, hour, minute and second. -/
structure SameSecond : Prop where
  year : time.year = other.year
  month : time.month = other.month
  day : time.day = other.day
  hour : time.hour = other.hour
  minute : time.minute = other.minute
  second : time.second = other.second

def SameMillis : Prop :=
  time.SameSecond other ∧ time.millis = other.millis

end LocalTime

/-- The session of a mention. -/
def atSessionName (time : LocalTime) : String :=
  "at-" ++ String.ofList (time.stamp ++ fixedDigits 3 time.millis)

/-- The session of `/session new` without a name. -/
def freshSessionName (time : LocalTime) : String :=
  "session-" ++ String.ofList time.stamp

example : atSessionName ⟨2026, 6, 15, 11, 40, 19, 7, by decide⟩ = "at-20260615-114019007" ∧
    freshSessionName ⟨2026, 6, 15, 11, 40, 19, 7, by decide⟩ =
      "session-20260615-114019" := by decide

section Format

lemma fixedDigits_ne_signed {width n : Nat} {year : Int}
    {rest : List Char} : fixedDigits width n ≠ yearSign year :: rest := by
  intro hdigits
  have hmem : yearSign year ∈ fixedDigits width n := by
    rw [hdigits]
    exact List.mem_cons_self
  have hle := le_toNat_of_mem_fixedDigits hmem
  unfold yearSign at hle
  split at hle <;> exact absurd hle (by decide)

lemma yearSign_eq_iff {year other : Int} :
    yearSign year = yearSign other ↔ (year < 0 ↔ other < 0) := by
  unfold yearSign
  by_cases hyear : year < 0 <;> by_cases hother : other < 0 <;>
    simp [hother]

lemma yearDigits_inj {year other : Int}
    (heq : yearDigits year = yearDigits other) : year = other := by
  unfold yearDigits at heq
  split at heq <;> split at heq
  · have hsame := fixedDigits_inj (by omega) (by omega) heq
    omega
  · exact absurd heq fixedDigits_ne_signed
  · exact absurd heq.symm fixedDigits_ne_signed
  · obtain ⟨hsign, hrest⟩ := List.cons.inj heq
    have hneg := yearSign_eq_iff.mp hsign
    have habs := paddedDigits_inj hrest
    omega

lemma append_fixedDigits_inj {width n m : Nat} {left right : List Char}
    (hn : n < 10 ^ width) (hm : m < 10 ^ width)
    (heq : left ++ fixedDigits width n = right ++ fixedDigits width m) : left = right ∧ n = m := by
  obtain ⟨hleft, hdigits⟩ := List.append_inj' heq (by
    rw [length_fixedDigits, length_fixedDigits])
  exact ⟨hleft, fixedDigits_inj hn hm hdigits⟩

namespace LocalTime

variable {time other : LocalTime}

lemma stamp_eq_iff : time.stamp = other.stamp ↔ time.SameSecond other := by
  constructor
  · intro heq
    have hvalid := time.valid
    have hother := other.valid
    obtain ⟨heq, hsecond⟩ := append_fixedDigits_inj (by omega) (by omega) heq
    obtain ⟨heq, hminute⟩ := append_fixedDigits_inj (by omega) (by omega) heq
    obtain ⟨heq, hhour⟩ := append_fixedDigits_inj (by omega) (by omega) heq
    have heq := (List.append_inj' heq rfl).1
    obtain ⟨heq, hday⟩ := append_fixedDigits_inj (by omega) (by omega) heq
    obtain ⟨heq, hmonth⟩ := append_fixedDigits_inj (by omega) (by omega) heq
    exact ⟨yearDigits_inj heq, hmonth, hday, hhour, hminute, hsecond⟩
  · intro hsame
    rw [stamp, stamp, hsame.year, hsame.month, hsame.day, hsame.hour, hsame.minute, hsame.second]

end LocalTime

variable {time other : LocalTime}

lemma atSessionName_eq_iff : atSessionName time = atSessionName other ↔ time.SameMillis other := by
  constructor
  · intro heq
    have hlist := congrArg String.toList heq
    simp only [atSessionName, String.toList_append, String.toList_ofList] at hlist
    have hvalid := time.valid
    have hother := other.valid
    obtain ⟨hstamp, hmillis⟩ := append_fixedDigits_inj (by omega) (by omega)
      (List.append_cancel_left hlist)
    exact ⟨LocalTime.stamp_eq_iff.mp hstamp, hmillis⟩
  · rintro ⟨hsecond, hmillis⟩
    rw [atSessionName, atSessionName, LocalTime.stamp_eq_iff.mpr hsecond, hmillis]

lemma freshSessionName_eq_iff :
    freshSessionName time = freshSessionName other ↔ time.SameSecond other := by
  constructor
  · intro heq
    have hlist := congrArg String.toList heq
    simp only [freshSessionName, String.toList_append, String.toList_ofList] at hlist
    exact LocalTime.stamp_eq_iff.mp (List.append_cancel_left hlist)
  · intro hsame
    rw [freshSessionName, freshSessionName, LocalTime.stamp_eq_iff.mpr hsame]

lemma atSessionName_ne_freshSessionName : atSessionName time ≠ freshSessionName other := by
  intro heq
  have hlist := congrArg String.toList heq
  simp [atSessionName, freshSessionName] at hlist

end Format

/-- The writes of named sessions, each with the local time at which its name was
made: a mention, `/session new` without a name, and the reports of a reply.  All
other steps of their handlers leave the named sessions alone. -/
inductive NamingEvent where
  | mention (dispatch : Dispatch) (vtoken payload vctx : String) (time : LocalTime) (env : HubEnv)
  | sessionNew (dispatch : Dispatch) (pair : PairKey) (time : LocalTime) (env : HubEnv)
  | reply (send : SendMessage) (phase : SendPhase) (env : HubEnv)

namespace NamingEvent

def env : NamingEvent → HubEnv
  | .mention _ _ _ _ _ env | .sessionNew _ _ _ env | .reply _ _ env => env

/-- The step of the handler. -/
def step (config : HubConfig) (data : HubData) : NamingEvent → HubData
  | .mention dispatch vtoken payload vctx time env =>
    Dispatch.dataAfter { dispatch with atSession := atSessionName time }
      data env (.mention vtoken payload (.create vctx))
  | .sessionNew dispatch pair time env =>
    dispatch.dataAfter data env (.command (.session
      (.sessionNew pair (freshSessionName time) "") .create))
  | .reply send phase env => send.replyAfter config data env (.send phase)

/-- The session that is created under a name from the clock. -/
def creates : NamingEvent → Option SessionKey
  | .mention _ vtoken _ vctx time _ =>
    some ⟨⟨vctx, vtoken⟩, atSessionName time⟩
  | .sessionNew _ pair time _ => some ⟨pair, freshSessionName time⟩
  | .reply _ _ _ => none

def op : NamingEvent → StoreOp
  | .mention _ vtoken _ vctx time _ =>
    .setBackendSession ⟨vctx, vtoken⟩ (atSessionName time) ""
  | .sessionNew _ pair time _ =>
    .setBackendSession pair (freshSessionName time) ""
  | .reply _ phase _ => SendMessage.op phase

/-- The row that the event leaves behind, if the store takes it. -/
def writes (event : NamingEvent) : Option SessionKey :=
  if event.env.ok then event.op.backendKey else none

/-- The name of the event was taken by the earlier one: by a mention in the same
millisecond or a command in the same second of the local clock, or by a reply
that gave this name. -/
def Takes (earlier event : NamingEvent) : Prop :=
  earlier.env.ok = true ∧
    match earlier, event with
    | .mention _ vtoken _ vctx time _, .mention _ own _ ownCtx ownTime _ =>
      (⟨vctx, vtoken⟩ : PairKey) = ⟨ownCtx, own⟩ ∧ time.SameMillis ownTime
    | .sessionNew _ pair time _, .sessionNew _ own ownTime _ =>
      pair = own ∧ time.SameSecond ownTime
    | .reply _ phase _, event =>
      ∃ key ∈ event.creates, (SendMessage.op phase).backendKey = some key
    | _, _ => False

/-- A session with a name from the clock is new, and no id of a session is
lost. -/
structure CreatesFresh (config : HubConfig) (data : HubData)
    (event : NamingEvent) : Prop where
  fresh : ∀ key ∈ event.creates, data.world.store.backend.lookup key = none
  kept : event.creates.isSome = true → ∀ pair name id,
    data.world.store.getBackendSession pair name = some id →
      (event.step config data).world.store.getBackendSession pair name = some id

/-- No event of the sequence, and no session from before, has taken the name of
a later one. -/
def NamesApart (data : HubData) (events : List NamingEvent) : Prop :=
  ∀ past event later, events = past ++ event :: later →
    (∀ key ∈ event.creates, data.world.store.backend.lookup key = none) ∧
      ∀ earlier ∈ past, ¬ earlier.Takes event

section Steps

variable {config : HubConfig} {data : HubData}

lemma store_step (event : NamingEvent) : (event.step config data).world.store =
      data.world.store.attempt event.env.ok event.env.now event.op := by
  cases event <;> rfl

variable {event : NamingEvent}

/-- The name is taken exactly if the earlier event has left its row behind. -/
lemma takes_iff {earlier : NamingEvent} :
    earlier.Takes event ↔ ∃ key ∈ event.creates, earlier.writes = some key := by
  unfold Takes writes
  cases hok : earlier.env.ok with
  | false => simp
  | true =>
    simp only [true_and]
    cases earlier with
    | reply send phase env => rfl
    | mention dispatch vtoken payload vctx time env =>
      cases event with
      | mention _ _ _ _ _ _ =>
        simp [creates, op, StoreOp.backendKey, atSessionName_eq_iff]
      | sessionNew _ _ _ _ =>
        simp [creates, op, StoreOp.backendKey, atSessionName_ne_freshSessionName]
      | reply _ _ _ => simp [creates]
    | sessionNew dispatch pair time env =>
      cases event with
      | mention _ _ _ _ _ _ =>
        simp [creates, op, StoreOp.backendKey, atSessionName_ne_freshSessionName.symm]
      | sessionNew _ _ _ _ =>
        simp [creates, op, StoreOp.backendKey, freshSessionName_eq_iff]
      | reply _ _ _ => simp [creates]

lemma not_deletes (event : NamingEvent) (pair : PairKey) (name : String) :
    event.op ≠ .deleteBackendSession pair name := by
  cases event with
  | reply send phase env => cases phase <;> simp [op, SendMessage.op]
  | _ => simp [op]

lemma isSome_lookup_step (event : NamingEvent) (key : SessionKey) :
    ((event.step config data).world.store.backend.lookup key).isSome = true ↔
      (data.world.store.backend.lookup key).isSome = true ∨ event.writes = some key := by
  rw [store_step, writes]
  cases event.env.ok with
  | false => simp
  | true =>
    rw [if_pos rfl]
    by_cases hkey : event.op.backendKey = some key
    · refine iff_of_true ?_ (.inr hkey)
      rw [attempt_ok]
      cases hop : event.op with
      | deleteBackendSession pair name =>
        exact absurd hop (event.not_deletes pair name)
      | setBackendSession pair name id =>
        rw [hop] at hkey
        cases hkey
        rw [apply, lookup_setBackendSession, if_pos rfl]
        rfl
      | setBackendSessionUsage pair name usage =>
        rw [hop] at hkey
        cases hkey
        rw [apply, lookup_setBackendSessionUsage, if_pos rfl]
        rfl
      | _ =>
        rw [hop] at hkey
        cases hkey
    · rw [backend_lookup_attempt_of_ne hkey, or_iff_left hkey]

lemma lookup_step_eq_none_iff (event : NamingEvent) (key : SessionKey) :
    (event.step config data).world.store.backend.lookup key = none ↔
      data.world.store.backend.lookup key = none ∧ event.writes ≠ some key := by
  rw [← not_iff_not, ← ne_eq, Option.ne_none_iff_isSome,
    isSome_lookup_step, not_and_or, not_not, ← ne_eq,
    Option.ne_none_iff_isSome]

/-- A new row takes no id away from another one. -/
lemma createsFresh_iff :
    event.CreatesFresh config data ↔
      ∀ key ∈ event.creates, data.world.store.backend.lookup key = none := by
  constructor
  · exact CreatesFresh.fresh
  · intro hfresh
    refine ⟨hfresh, ?_⟩
    intro hcreates pair name id hid
    have hkey : event.op.backendKey ≠ some ⟨pair, name⟩ := by
      intro hkey
      have hnone : data.world.store.backend.lookup ⟨pair, name⟩ = none := by
        cases event with
        | reply _ _ _ => cases hcreates
        | _ => exact hfresh _ hkey
      simp [getBackendSession, hnone] at hid
    rw [store_step, getBackendSession, backend_lookup_attempt_of_ne hkey]
    exact hid

lemma namesApart_cons {events : List NamingEvent} :
    NamesApart data (event :: events) ↔
      (∀ key ∈ event.creates, data.world.store.backend.lookup key = none) ∧
        NamesApart (event.step config data) events := by
  have hmoved : ∀ other, (∀ key ∈ other.creates,
          (event.step config data).world.store.backend.lookup key = none) ↔
        (∀ key ∈ other.creates, data.world.store.backend.lookup key = none) ∧
          ¬ event.Takes other := by
    intro other
    simp only [lookup_step_eq_none_iff, takes_iff, not_exists, not_and]
    constructor
    · exact fun hall =>
        ⟨fun key hkey => (hall key hkey).1, fun key hkey => (hall key hkey).2⟩
    · exact fun hall key hkey => ⟨hall.1 key hkey, hall.2 key hkey⟩
  constructor
  · intro happart
    refine ⟨(happart [] event events rfl).1, ?_⟩
    rintro past other later rfl
    obtain ⟨hnone, htakes⟩ := happart (event :: past) other later rfl
    refine ⟨(hmoved other).mpr ⟨hnone, htakes event List.mem_cons_self⟩, ?_⟩
    exact fun earlier hearlier =>
      htakes earlier (List.mem_cons_of_mem event hearlier)
  · rintro ⟨hfirst, hrest⟩ past other later heq
    cases past with
    | nil =>
      obtain ⟨rfl, rfl⟩ := List.cons.inj heq
      exact ⟨hfirst, by simp⟩
    | cons first past =>
      obtain ⟨rfl, rfl⟩ := List.cons.inj heq
      obtain ⟨hmovedNone, htakes⟩ := hrest past other later rfl
      obtain ⟨hnone, hown⟩ := (hmoved other).mp hmovedNone
      refine ⟨hnone, fun earlier hearlier => ?_⟩
      rcases List.mem_cons.mp hearlier with rfl | hearlier
      · exact hown
      · exact htakes earlier hearlier

/-- The sessions that are named from the clock are new, at every step of a
sequence, exactly if no name in it was taken before. -/
theorem createsFresh_iff_namesApart (config : HubConfig) (data : HubData)
    (events : List NamingEvent) : Transition.EveryStep (step config) (fun data event =>
        event.CreatesFresh config data) data events ↔
      NamesApart data events := by
  induction events generalizing data with
  | nil =>
    refine iff_of_true trivial ?_
    intro past event later heq
    simp at heq
  | cons event events ih =>
    rw [Transition.EveryStep, ih, createsFresh_iff]
    exact namesApart_cons.symm

end Steps

end NamingEvent

/-- Half past one in the night in which the clocks are set back. -/
def Sample.fallBack : LocalTime :=
  ⟨2026, 11, 1, 1, 30, 0, 0, by decide⟩

/-- A mention, the answer to it with an id for the session, and a mention one
hour later, at the same local time. -/
def Sample.mentionedTwice : List NamingEvent :=
  let mention := NamingEvent.mention { inbound := inbound "u" "@bot hi" } "h1"
    "hi" "vctx_1" fallBack {}
  let reply : OwnedReply := ⟨⟨"vctx_1", "h1"⟩, {}, "at-20261101-013000000", "ctx", "peer:u"⟩
  [mention, .reply ⟨some "h1", ⟨none⟩⟩ (.persistSession reply "cli") {}, mention]

def Sample.afterNaming (n : Nat) : HubData :=
  Transition.run (NamingEvent.step noAcl) freshHub (mentionedTwice.take n)

/-- The second mention empties the session of the first one. -/
theorem mention_erases_session :
    (Sample.afterNaming 2).world.store.getBackendSession ⟨"vctx_1", "h1"⟩
        "at-20261101-013000000" = some "cli" ∧
      (Sample.afterNaming 3).world.store.getBackendSession ⟨"vctx_1", "h1"⟩
        "at-20261101-013000000" = some "" := by
  decide +kernel

end IlinkHub
