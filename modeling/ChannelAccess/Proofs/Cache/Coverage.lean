import ChannelAccess.Proofs.Cache.SharedReply

/-!
# Entries are found through the indexes

Entries and indexes of a scope end independently of each other: an entry and an
index each at a time of their own, a member of an index when it is pruned by its
score, which counts whole seconds. An entry is covered if it ends before all of the
members that stand for it and before their indexes. What the shared cache does and
what time does keeps every entry covered, so a drop, which finds entries through
the indexes only, misses none.
-/

namespace ChannelAccess

set_option autoImplicit false

/-- The members of the indexes that stand for an entry. -/
inductive StandsFor (key : EntryKey) : IndexName → Uuid → Prop where
  | user : StandsFor key .users key.user
  | channelOfUser : StandsFor key (.ofUser key.user) key.channel
  | userOfChannel : StandsFor key (.ofChannel key.channel) key.user

theorem user_of_channel_member {key : EntryKey} {channel : ChannelId} {id : Uuid}
    (stands : StandsFor key (.ofChannel channel) id) : key.channel = channel ∧ id = key.user := by
  cases stands
  exact ⟨rfl, rfl⟩

namespace Roster

/-- A member is listed with a score that comes after a time. -/
def ListsPast (roster : Roster) (id : Uuid) (time : Nat) : Prop :=
  ∃ score, roster.scores[id]? = some score ∧ (time : Int) < score * Keyspace.second

def LastsPast (roster : Roster) (time : Nat) : Prop :=
  ∀ deadline, roster.expiry = some deadline → time ≤ deadline

variable {roster : Roster} {id other : Uuid} {time : Nat}

theorem lists_of_lists_past (listed : roster.ListsPast id time) : roster.Lists id := by
  obtain ⟨score, found, _⟩ := listed
  exact (lists_iff roster id).mpr ⟨score, found⟩

theorem lists_past_add {score : Int} (later : (time : Int) < score * Keyspace.second)
    (listed : other = id ∨ roster.ListsPast other time) :
    (roster.add id score).ListsPast other time := by
  by_cases same : other = id
  · exact ⟨score, by rw [score_add, if_pos same], later⟩
  · obtain ⟨given, found, past⟩ := listed.resolve_left same
    exact ⟨given, by rw [score_add, if_neg same, found], past⟩

theorem lists_past_prune {clock : Nat} (alive : clock < time)
    (listed : roster.ListsPast id time) :
    (roster.prune ((clock / Keyspace.second : Nat) : Int)).ListsPast id time := by
  obtain ⟨score, found, past⟩ := listed
  have spared : ((clock / Keyspace.second : Nat) : Int) < score := by
    simp only [Keyspace.second] at past ⊢
    omega
  refine ⟨score, ?_, past⟩
  rw [prune, score_select, found]
  simpa using spared

theorem lists_past_keep_until {expiry : Nat} (listed : roster.ListsPast id time) :
    (roster.keepUntil expiry).ListsPast id time :=
  listed

theorem lasts_past_keep_until {expiry : Nat} (later : time ≤ expiry) :
    (roster.keepUntil expiry).LastsPast time := by
  intro deadline kept
  have same := expiry_of_scores_eq_some kept
  rw [Option.some.injEq] at same
  omega

theorem at_time_of_lasts_past {clock : Nat} (alive : clock < time)
    (lasts : roster.LastsPast time) : roster.atTime clock = roster := by
  rw [atTime]
  cases ends : roster.expiry with
  | none => rfl
  | some expiry =>
      have later := lasts expiry ends
      exact if_pos (by omega)

/-- A member is listed as before, and the index is not over earlier. -/
structure Keeps (before after : Roster) (id : Uuid) : Prop where
  score : after.scores[id]? = before.scores[id]?
  expiry : ∀ deadline, after.expiry = some deadline → before.expiry = some deadline

theorem keeps_self : roster.Keeps roster id :=
  ⟨rfl, fun _ same => same⟩

theorem keeps_trans {second third : Roster} (first_keeps : roster.Keeps second id)
    (second_keeps : second.Keeps third id) : roster.Keeps third id :=
  ⟨second_keeps.score.trans first_keeps.score,
    fun deadline expires =>
      first_keeps.expiry deadline (second_keeps.expiry deadline expires)⟩

theorem keeps_select {stays : Uuid → Int → Bool} (stay : ∀ score, stays id score = true) :
    roster.Keeps (roster.select stays) id where
  score := by
    rw [score_select]
    cases roster.scores[id]? with
    | none => rfl
    | some score => simp [stay score]
  expiry deadline expires := expiry_of_scores_eq_some expires

theorem keeps_remove (different : id ≠ other) : roster.Keeps (roster.remove other) id :=
  keeps_select fun _ => by simpa using different

end Roster

namespace Holdings

/-- Every entry is alive, ends within the lifetime, and is listed by the members that stand for it
for longer than that. -/
structure Listed (lifetime : Nat) (held : Holdings) : Prop where
  alive : ∀ key entry, held.entry key = some entry → held.clock < entry.expiry
  soon : ∀ key entry, held.entry key = some entry →
    entry.expiry ≤ held.clock + lifetime * Keyspace.second
  past : ∀ key entry, held.entry key = some entry → ∀ name id, StandsFor key name id →
    (held.index name).ListsPast id entry.expiry

def Lasting (held : Holdings) (name : IndexName) : Prop :=
  ∀ key entry id, held.entry key = some entry → StandsFor key name id →
    (held.index name).LastsPast entry.expiry

/-- Every entry is found through its indexes for as long as it is alive. -/
structure Covered (lifetime : Nat) (held : Holdings) : Prop where
  listed : held.Listed lifetime
  lasting : ∀ name, held.Lasting name

/-- Every entry is listed by the members that stand for it, for however long. -/
def Indexed (held : Holdings) : Prop :=
  ∀ key entry, held.entry key = some entry → ∀ name id, StandsFor key name id →
    (held.index name).Lists id

variable {lifetime : Nat} {held next : Holdings}

theorem covered_blank (clock : Nat) : (blank clock).Covered lifetime where
  listed := ⟨by simp [blank], by simp [blank], by simp [blank]⟩
  lasting name := by simp [Lasting, blank]

theorem lists_of_covered (covered : held.Covered lifetime) {key : EntryKey} {entry : TimedMask}
    (found : held.entry key = some entry) {name : IndexName} {id : Uuid}
    (stands : StandsFor key name id) : (held.index name).Lists id :=
  Roster.lists_of_lists_past (covered.listed.past key entry found name id stands)

theorem indexed_of_covered (covered : held.Covered lifetime) : held.Indexed :=
  fun _ _ found _ _ stands => lists_of_covered covered found stands

/-! Time. -/

theorem entry_advance {key : EntryKey} {entry : TimedMask} (micros : Nat) :
    (held.advance micros).entry key = some entry ↔
      held.entry key = some entry ∧ held.clock + micros < entry.expiry := by
  simp [advance, Option.filter_eq_some_iff]

theorem covered_advance (covered : held.Covered lifetime) (micros : Nat) :
    (held.advance micros).Covered lifetime := by
  have asBefore : ∀ key entry, (held.advance micros).entry key = some entry →
      ∀ name id, StandsFor key name id →
        (held.advance micros).index name = held.index name := by
    intro key entry left name id stands
    obtain ⟨found, alive⟩ := (entry_advance micros).mp left
    exact Roster.at_time_of_lasts_past alive (covered.lasting name key entry id found stands)
  constructor
  · constructor
    · intro key entry left
      exact ((entry_advance micros).mp left).2
    · intro key entry left
      have soon := covered.listed.soon key entry ((entry_advance micros).mp left).1
      simp only [advance]
      omega
    · intro key entry left name id stands
      rw [asBefore key entry left name id stands]
      exact covered.listed.past key entry ((entry_advance micros).mp left).1 name id stands
  · intro name key entry id left stands
    rw [asBefore key entry left name id stands]
    exact covered.lasting name key entry id ((entry_advance micros).mp left).1 stands

/-! Writes. -/

theorem lt_score {time : Nat} (soon : time ≤ held.clock + lifetime * Keyspace.second) :
    (time : Int) < held.score lifetime * Keyspace.second := by
  simp only [score, seconds, Keyspace.second] at soon ⊢
  omega

theorem le_index_expiry {time : Nat} (soon : time ≤ held.clock + lifetime * Keyspace.second) :
    time ≤ held.indexExpiry lifetime := by
  rw [indexExpiry, Nat.add_mul]
  omega

theorem lists_past_touch {name : IndexName} {id other : Uuid} {time : Nat}
    (alive : held.clock < time) (soon : time ≤ held.clock + lifetime * Keyspace.second)
    (listed : other = id ∨ (held.index name).ListsPast other time) :
    ((held.touch name id lifetime).index name).ListsPast other time := by
  rw [touch, index_set_index_self]
  apply Roster.lists_past_keep_until
  apply Roster.lists_past_prune alive
  exact Roster.lists_past_add (lt_score soon) listed

theorem lasts_past_touch {name : IndexName} {id : Uuid} {time : Nat}
    (soon : time ≤ held.clock + lifetime * Keyspace.second) :
    ((held.touch name id lifetime).index name).LastsPast time := by
  have later := le_index_expiry soon
  rw [touch, index_set_index_self]
  exact Roster.lasts_past_keep_until later

theorem entry_write_entry (entry : SharedCache.Entry) (key : EntryKey) :
    (writeEntry lifetime held entry).entry key =
      if key = ⟨entry.user, entry.channel⟩ then
        some ⟨entry.mask, held.clock + lifetime * Keyspace.second⟩
      else held.entry key := by
  simp only [writeEntry, touch, entry_set_index, entry_set_entry]

theorem index_write_entry_users (entry : SharedCache.Entry) :
    (writeEntry lifetime held entry).index .users =
      (held.index .users).add entry.user (held.score lifetime) := by
  simp [writeEntry, touch, index_set_index]

theorem index_write_entry_of_user (entry : SharedCache.Entry) (user : UserId) :
    (writeEntry lifetime held entry).index (.ofUser user) =
      if user = entry.user then
        (held.touch (.ofUser user) entry.channel lifetime).index (.ofUser user)
      else held.index (.ofUser user) := by
  by_cases same : user = entry.user
  · subst same
    simp [writeEntry, touch, index_set_index, score, indexExpiry, seconds, setEntry]
  · simp [writeEntry, touch, index_set_index, same]

theorem index_write_entry_of_channel (entry : SharedCache.Entry) (channel : ChannelId) :
    (writeEntry lifetime held entry).index (.ofChannel channel) =
      if channel = entry.channel then
        (held.touch (.ofChannel channel) entry.user lifetime).index (.ofChannel channel)
      else held.index (.ofChannel channel) := by
  by_cases same : channel = entry.channel
  · subst same
    simp [writeEntry, touch, index_set_index, score, indexExpiry, seconds, setEntry]
  · simp [writeEntry, touch, index_set_index, same]

theorem lists_past_write_entry {entry : SharedCache.Entry} {key : EntryKey} {name : IndexName}
    {id : Uuid} {time : Nat} (stands : StandsFor key name id) (alive : held.clock < time)
    (soon : time ≤ held.clock + lifetime * Keyspace.second)
    (listed : key = ⟨entry.user, entry.channel⟩ ∨ (held.index name).ListsPast id time) :
    ((writeEntry lifetime held entry).index name).ListsPast id time := by
  cases stands with
  | user =>
      rw [index_write_entry_users]
      have written := listed.imp_left (congrArg EntryKey.user)
      exact Roster.lists_past_add (lt_score soon) written
  | channelOfUser =>
      rw [index_write_entry_of_user]
      split
      · exact lists_past_touch alive soon (listed.imp (congrArg EntryKey.channel) fun past => past)
      case isFalse other =>
        exact listed.resolve_left fun same => other (congrArg EntryKey.user same)
  | userOfChannel =>
      rw [index_write_entry_of_channel]
      split
      · exact lists_past_touch alive soon (listed.imp (congrArg EntryKey.user) fun past => past)
      case isFalse other =>
        exact listed.resolve_left fun same => other (congrArg EntryKey.channel same)

/-- Of the indexes of an entry only the users index may end too early for it, until the write of all
entries is complete. -/
theorem lasts_past_write_entry {entry : SharedCache.Entry} {key : EntryKey} {name : IndexName}
    {id : Uuid} {time : Nat} (stands : StandsFor key name id) (not_users : name ≠ .users)
    (soon : time ≤ held.clock + lifetime * Keyspace.second)
    (lasts : key = ⟨entry.user, entry.channel⟩ ∨ (held.index name).LastsPast time) :
    ((writeEntry lifetime held entry).index name).LastsPast time := by
  cases stands with
  | user => exact absurd rfl not_users
  | channelOfUser =>
      rw [index_write_entry_of_user]
      split
      · exact lasts_past_touch soon
      case isFalse other =>
        exact lasts.resolve_left fun same => other (congrArg EntryKey.user same)
  | userOfChannel =>
      rw [index_write_entry_of_channel]
      split
      · exact lasts_past_touch soon
      case isFalse other =>
        exact lasts.resolve_left fun same => other (congrArg EntryKey.channel same)

theorem listed_write_entry (positive : 0 < lifetime) (listed : held.Listed lifetime)
    (entry : SharedCache.Entry) : (writeEntry lifetime held entry).Listed lifetime := by
  have ends : ∀ key given, (writeEntry lifetime held entry).entry key = some given →
      held.clock < given.expiry ∧ given.expiry ≤ held.clock + lifetime * Keyspace.second ∧
        (key = ⟨entry.user, entry.channel⟩ ∨ held.entry key = some given) := by
    intro key given found
    rw [entry_write_entry] at found
    split at found
    case isTrue same =>
      rw [Option.some.injEq] at found
      subst found
      have lasts : 0 < lifetime * Keyspace.second := Nat.mul_pos positive (by decide)
      exact ⟨by dsimp only; omega, Nat.le_refl _, .inl same⟩
    case isFalse =>
      exact ⟨listed.alive key given found, listed.soon key given found, .inr found⟩
  constructor
  · intro key given found
    exact (ends key given found).1
  · intro key given found
    exact (ends key given found).2.1
  · intro key given found name id stands
    obtain ⟨alive, soon, origin⟩ := ends key given found
    apply lists_past_write_entry stands alive soon
    exact origin.imp (fun same => same) fun before => listed.past key given before name id stands

theorem lasting_write_entry (listed : held.Listed lifetime)
    (lasting : ∀ name, name ≠ .users → held.Lasting name) (entry : SharedCache.Entry) :
    ∀ name, name ≠ .users → (writeEntry lifetime held entry).Lasting name := by
  intro name not_users key given id found stands
  rw [entry_write_entry] at found
  split at found
  case isTrue same =>
    rw [Option.some.injEq] at found
    subst found
    exact lasts_past_write_entry stands not_users (Nat.le_refl _) (.inl same)
  case isFalse =>
    exact lasts_past_write_entry stands not_users (listed.soon key given found)
      (.inr (lasting name not_users key given id found stands))

theorem covered_write_entries (positive : 0 < lifetime) (listed : held.Listed lifetime)
    (lasting : ∀ name, name ≠ .users → held.Lasting name) (entries : List SharedCache.Entry) :
    (entries.foldl (writeEntry lifetime) held).Listed lifetime ∧
      ∀ name, name ≠ .users → (entries.foldl (writeEntry lifetime) held).Lasting name := by
  induction entries generalizing held with
  | nil => exact ⟨listed, lasting⟩
  | cons entry rest ih =>
      exact ih (listed_write_entry positive listed entry)
        (lasting_write_entry listed lasting entry)

theorem covered_write (positive : 0 < lifetime) (covered : held.Covered lifetime)
    (entries : List SharedCache.Entry) : (held.write lifetime entries).Covered lifetime := by
  -- Until the last step of the write the users index may end before the entries that it lists.
  obtain ⟨listed, lasting⟩ := covered_write_entries positive covered.listed
    (fun name _ => covered.lasting name) entries
  have clock := clock_write_entries held lifetime entries
  constructor
  · constructor
    · exact listed.alive
    · exact listed.soon
    · intro key entry found name id stands
      have alive := listed.alive key entry found
      have past := listed.past key entry found name id stands
      rw [write, index_set_index]
      split
      case isTrue users =>
        subst users
        rw [clock] at alive
        exact Roster.lists_past_keep_until (Roster.lists_past_prune alive past)
      case isFalse => exact past
  · intro name key entry id found stands
    rw [write, index_set_index]
    split
    case isTrue =>
      have soon := listed.soon key entry found
      rw [clock] at soon
      exact Roster.lasts_past_keep_until (le_index_expiry soon)
    case isFalse not_users => exact lasting name not_users key entry id found stands

/-! Drops. -/

theorem covered_of_part (covered : held.Covered lifetime) (clock : next.clock = held.clock)
    (part : ∀ key entry, next.entry key = some entry → held.entry key = some entry)
    (keeps : ∀ key entry, next.entry key = some entry → ∀ name id, StandsFor key name id →
      (held.index name).Keeps (next.index name) id) : next.Covered lifetime := by
  constructor
  · constructor
    · intro key entry left
      rw [clock]
      exact covered.listed.alive key entry (part key entry left)
    · intro key entry left
      rw [clock]
      exact covered.listed.soon key entry (part key entry left)
    · intro key entry left name id stands
      obtain ⟨score, found, past⟩ :=
        covered.listed.past key entry (part key entry left) name id stands
      exact ⟨score, (keeps key entry left name id stands).score.trans found, past⟩
  · intro name key entry id left stands deadline expires
    exact covered.lasting name key entry id (part key entry left) stands deadline
      ((keeps key entry left name id stands).expiry deadline expires)

/-- The indexes that a drop of a scope walks lead it to an entry. -/
def LeadsTo (held : Holdings) (key : EntryKey) : Invalidation → Prop
  | .all =>
      (held.index .users).Lists key.user ∧ (held.index (.ofUser key.user)).Lists key.channel
  | .ofChannel _ => (held.index (.ofChannel key.channel)).Lists key.user
  | .ofUser _ => (held.index (.ofUser key.user)).Lists key.channel
  | .ofEntry _ _ => True

theorem entry_drop_scope_iff (held : Holdings) (scope : Invalidation) (key : EntryKey)
    (entry : TimedMask) :
    (held.dropScope scope).entry key = some entry ↔
      held.entry key = some entry ∧
        ¬(scope.covers key.user key.channel = true ∧ held.LeadsTo key scope) := by
  -- Each drop tests an entry against what it walks; that is the only thing to compare.
  have taken {walked : Prop} [Decidable walked]
      (same : walked ↔ scope.covers key.user key.channel = true ∧ held.LeadsTo key scope) :
      (if walked then none else held.entry key) = some entry ↔
        held.entry key = some entry ∧
          ¬(scope.covers key.user key.channel = true ∧ held.LeadsTo key scope) := by
    rw [Option.ite_none_left_eq_some, same, and_comm]
  cases scope with
  | all =>
      apply taken
      simp [Invalidation.covers, LeadsTo, Roster.Lists]
  | ofChannel channel =>
      apply taken
      simp only [Invalidation.covers, LeadsTo, Roster.mem_keys_iff, beq_iff_eq]
      constructor
      · rintro ⟨rfl, listed⟩
        exact ⟨rfl, listed⟩
      · rintro ⟨rfl, listed⟩
        exact ⟨rfl, listed⟩
  | ofUser user =>
      apply taken
      simp only [Invalidation.covers, LeadsTo, Roster.mem_keys_iff, beq_iff_eq]
      constructor
      · rintro ⟨rfl, listed⟩
        exact ⟨rfl, listed⟩
      · rintro ⟨rfl, listed⟩
        exact ⟨rfl, listed⟩
  | ofEntry user channel =>
      apply taken
      simp [Invalidation.covers, LeadsTo, eq_comm (a := user), eq_comm (a := channel), and_comm]

theorem leads_to_of_indexed (indexed : held.Indexed) {key : EntryKey} {entry : TimedMask}
    (found : held.entry key = some entry) (scope : Invalidation) : held.LeadsTo key scope := by
  have listed {name : IndexName} {id : Uuid} (stands : StandsFor key name id) :=
    indexed key entry found name id stands
  cases scope with
  | all => exact ⟨listed .user, listed .channelOfUser⟩
  | ofChannel channel => exact listed .userOfChannel
  | ofUser user => exact listed .channelOfUser
  | ofEntry user channel => trivial

theorem entry_drop_scope (indexed : held.Indexed) (scope : Invalidation) (key : EntryKey) :
    (held.dropScope scope).entry key =
      if scope.covers key.user key.channel then none else held.entry key := by
  apply Option.ext
  intro entry
  rw [entry_drop_scope_iff, Option.ite_none_left_eq_some, and_comm]
  constructor
  · rintro ⟨missed, found⟩
    exact ⟨fun covers => missed ⟨covers, leads_to_of_indexed indexed found scope⟩, found⟩
  · rintro ⟨outside, found⟩
    exact ⟨fun both => outside both.1, found⟩

theorem keeps_drop_user {user : UserId} {key : EntryKey} (left : key.user ≠ user)
    {name : IndexName} {id : Uuid} (stands : StandsFor key name id) :
    (held.index name).Keeps ((held.dropUser user).index name) id := by
  cases stands with
  | user =>
      have dropped : (held.dropUser user).index .users = (held.index .users).remove user := by
        simp [dropUser, forgetChannels, index_set_index]
      rw [dropped]
      exact Roster.keeps_remove left
  | channelOfUser =>
      have kept : (held.dropUser user).index (.ofUser key.user) =
          held.index (.ofUser key.user) := by
        simp [dropUser, forgetChannels, index_set_index, left]
      rw [kept]
      exact Roster.keeps_self
  | userOfChannel =>
      have dropped : (held.dropUser user).index (.ofChannel key.channel) =
          if key.channel ∈ (held.index (.ofUser user)).scores.keys then
            (held.index (.ofChannel key.channel)).remove user
          else held.index (.ofChannel key.channel) := by
        simp [dropUser, forgetChannels, index_set_index]
      rw [dropped]
      split
      · exact Roster.keeps_remove left
      · exact Roster.keeps_self

/-- A user whose entries in a channel are forgotten leaves the users index only if no other entry of
the user is left. -/
theorem keeps_forget_users {channel : ChannelId} {users : List UserId} {key : EntryKey}
    (listed : (held.index (.ofUser key.user)).Lists key.channel)
    (left : ¬(key.channel = channel ∧ key.user ∈ users)) {name : IndexName} {id : Uuid}
    (stands : StandsFor key name id) :
    (held.index name).Keeps ((held.forgetUsers channel users).index name) id := by
  cases stands with
  | user =>
      apply Roster.keeps_select
      intro score
      by_cases dropped : key.user ∈ users
      -- The entry that is left keeps its channel in the user's index, so that is not empty.
      · have other : key.channel ≠ channel := fun same => left ⟨same, dropped⟩
        have busy : ((held.index (.ofUser key.user)).remove channel).scores.isEmpty = false := by
          rw [Bool.eq_false_iff, ne_eq, Roster.is_empty_iff]
          intro nobody
          exact nobody key.channel ((Roster.lists_remove _ _ _).mpr ⟨other, listed⟩)
        rw [busy]
        simp
      · simp [dropped]
  | channelOfUser =>
      change Roster.Keeps _ (if key.user ∈ users then
        (held.index (.ofUser key.user)).remove channel else held.index (.ofUser key.user)) _
      split
      case isTrue dropped =>
        exact Roster.keeps_remove fun same => left ⟨same, dropped⟩
      case isFalse => exact Roster.keeps_self
  | userOfChannel => exact Roster.keeps_self

theorem keeps_drop_channel {channel : ChannelId} {key : EntryKey}
    (listed : (held.index (.ofUser key.user)).Lists key.channel) (left : key.channel ≠ channel)
    {name : IndexName} {id : Uuid} (stands : StandsFor key name id) :
    (held.index name).Keeps ((held.dropChannel channel).index name) id := by
  have other : name ≠ .ofChannel channel := by
    cases stands <;> simp [left]
  rw [dropChannel, index_set_index, if_neg other]
  exact keeps_forget_users listed (fun both => left both.1) stands

theorem keeps_drop_entry {dropped key : EntryKey}
    (listed : (held.index (.ofUser key.user)).Lists key.channel)
    (left : ¬(key.channel = dropped.channel ∧ key.user = dropped.user))
    {name : IndexName} {id : Uuid} (stands : StandsFor key name id) :
    (held.index name).Keeps ((held.dropEntry dropped).index name) id := by
  let unlisted := held.setIndex (.ofChannel dropped.channel)
    ((held.index (.ofChannel dropped.channel)).remove dropped.user)
  have first : (held.index name).Keeps (unlisted.index name) id := by
    rw [index_set_index]
    split
    case isTrue same =>
      subst same
      obtain ⟨sameChannel, rfl⟩ := user_of_channel_member stands
      exact Roster.keeps_remove fun sameUser => left ⟨sameChannel, sameUser⟩
    case isFalse => exact Roster.keeps_self
  have still : (unlisted.index (.ofUser key.user)).Lists key.channel := by
    rw [index_set_index, if_neg (by simp)]
    exact listed
  have second : (unlisted.index name).Keeps ((held.dropEntry dropped).index name) id :=
    keeps_forget_users still (by simpa using left) stands
  exact Roster.keeps_trans first second

theorem clock_drop_scope (held : Holdings) (scope : Invalidation) :
    (held.dropScope scope).clock = held.clock := by
  cases scope <;> rfl

theorem keeps_drop_scope (indexed : held.Indexed) {scope : Invalidation} {key : EntryKey}
    {entry : TimedMask} (left : (held.dropScope scope).entry key = some entry) {name : IndexName}
    {id : Uuid} (stands : StandsFor key name id) :
    (held.index name).Keeps ((held.dropScope scope).index name) id := by
  rw [entry_drop_scope indexed, Option.ite_none_left_eq_some] at left
  obtain ⟨outside, found⟩ := left
  have listed := indexed key entry found _ _ .channelOfUser
  cases scope with
  | all => simp [Invalidation.covers] at outside
  | ofUser user =>
      have other : key.user ≠ user := fun same => by simp [Invalidation.covers, same] at outside
      exact keeps_drop_user other stands
  | ofChannel channel =>
      have other : key.channel ≠ channel := fun same => by
        simp [Invalidation.covers, same] at outside
      exact keeps_drop_channel listed other stands
  | ofEntry user channel =>
      have other : ¬(key.channel = channel ∧ key.user = user) := fun ⟨sameChannel, sameUser⟩ => by
        simp [Invalidation.covers, sameChannel, sameUser] at outside
      exact keeps_drop_entry listed other stands

theorem entry_of_drop_scope {scope : Invalidation} {key : EntryKey} {entry : TimedMask}
    (left : (held.dropScope scope).entry key = some entry) : held.entry key = some entry :=
  ((entry_drop_scope_iff held scope key entry).mp left).1

theorem covered_drop_scope (covered : held.Covered lifetime) (scope : Invalidation) :
    (held.dropScope scope).Covered lifetime :=
  covered_of_part covered (clock_drop_scope held scope) (fun _ _ left => entry_of_drop_scope left)
    fun _ _ left _ _ stands => keeps_drop_scope (indexed_of_covered covered) left stands

theorem indexed_drop_scope (indexed : held.Indexed) (scope : Invalidation) :
    (held.dropScope scope).Indexed := by
  intro key entry left name id stands
  have listed := indexed key entry (entry_of_drop_scope left) name id stands
  rw [Roster.lists_iff] at listed ⊢
  rwa [(keeps_drop_scope indexed left stands).score]

end Holdings

end ChannelAccess
