import ChannelAccess.Proofs.Cache.Scopes
import ChannelAccess.Proofs.Cache.SharedReply

/-!
# Scripts stay within a realm

A script that touches some keys only depends on nothing but those keys and the clock, and changes no
other key. For the scripts of the shared cache these are the keys of its scope. They build keys out
of what they find in the indexes, so this rests on every member of an index being the text of an
identifier, which scripts maintain. Nothing else is assumed of the keys: they may hold anything, and
a script may well be refused half-way.
-/

namespace ChannelAccess

set_option autoImplicit false

def Uuid.IsText (text : String) : Prop :=
  ∃ id : Uuid, id.text = text

theorem Uuid.is_text_text (id : Uuid) : Uuid.IsText id.text :=
  ⟨id, rfl⟩

/-- The keys that some scripts touch, and the texts that they put into sets. -/
structure Realm where
  owns : String → Prop
  admits : String → Prop

namespace Realm

def of (names : KeyNames) : Realm :=
  ⟨names.Owns, Uuid.IsText⟩

def besides (key : String) : Realm :=
  ⟨(· ≠ key), fun _ => True⟩

end Realm

def Stored.Tidy (realm : Realm) : Stored → Prop
  | .text _ => True
  | .members scores => ∀ text ∈ scores, realm.admits text

namespace Keyspace

variable (realm : Realm)

def Tidy (space : Keyspace) : Prop :=
  ∀ key, realm.owns key → ∀ slot, space.slots[key]? = some slot → slot.content.Tidy realm

/-- The same time, and the same under every key of a realm. -/
structure Alike (first second : Keyspace) : Prop where
  clock : first.clock = second.clock
  slots : ∀ key, realm.owns key → first.slots[key]? = second.slots[key]?

/-- The same time, and the same under every key outside a realm. -/
structure Spared (before after : Keyspace) : Prop where
  clock : after.clock = before.clock
  slots : ∀ key, ¬realm.owns key → after.slots[key]? = before.slots[key]?

variable {realm}

theorem alike_refl (space : Keyspace) : Alike realm space space :=
  ⟨rfl, fun _ _ => rfl⟩

theorem spared_refl (space : Keyspace) : Spared realm space space :=
  ⟨rfl, fun _ _ => rfl⟩

theorem spared_trans {before between after : Keyspace} (first : Spared realm before between)
    (second : Spared realm between after) : Spared realm before after :=
  ⟨second.clock.trans first.clock, fun key foreign =>
    (second.slots key foreign).trans (first.slots key foreign)⟩

end Keyspace

open Keyspace

/-- On servers that are alike within a realm a script has the same outcome, and leaves servers that
are again alike. Other keys are spared, and an answer satisfies the condition. -/
def Confined {α : Type} (realm : Realm) (script : KeyspaceScript α) (post : α → Prop) : Prop :=
  ∀ first second, Alike realm first second → first.Tidy realm →
    ∃ outcome after other, script.run.run first = (outcome, after) ∧
      script.run.run second = (outcome, other) ∧ Alike realm after other ∧ after.Tidy realm ∧
      Spared realm first after ∧ ∀ answer, outcome = .ok answer → post answer

def Stays {α : Type} (realm : Realm) (script : KeyspaceScript α) : Prop :=
  Confined realm script fun _ => True

section Commands

variable {α β : Type} {realm : Realm}

theorem run_script_bind_error (first : KeyspaceScript α) (rest : α → KeyspaceScript β)
    (space after : Keyspace) (reason : String)
    (ran : first.run.run space = (.error reason, after)) :
    (first >>= rest).run.run space = (.error reason, after) := by
  have opened : (first >>= rest).run.run space =
      (first.run >>= ExceptT.bindCont rest).run space := rfl
  rw [opened, StateT.run_bind, ran]
  rfl

theorem confined_bind {first : KeyspaceScript α} {rest : α → KeyspaceScript β}
    {between : α → Prop} {post : β → Prop} (start : Confined realm first between)
    (further : ∀ answer, between answer → Confined realm (rest answer) post) :
    Confined realm (first >>= rest) post := by
  intro one two alike tidy
  obtain ⟨outcome, after, other, ran, ranOther, alikeAfter, tidyAfter, spared, holds⟩ :=
    start one two alike tidy
  cases outcome with
  | error reason =>
      exact ⟨.error reason, after, other, run_script_bind_error first rest one after reason ran,
        run_script_bind_error first rest two other reason ranOther, alikeAfter, tidyAfter, spared,
        nofun⟩
  | ok answer =>
      obtain ⟨last, final, otherFinal, ranRest, ranOtherRest, alikeFinal, tidyFinal, sparedRest,
        holdsLast⟩ := further answer (holds answer rfl) after other alikeAfter tidyAfter
      refine ⟨last, final, otherFinal, ?_, ?_, alikeFinal, tidyFinal,
        spared_trans spared sparedRest, holdsLast⟩
      · rw [run_script_bind first rest one after answer ran, ranRest]
      · rw [run_script_bind first rest two other answer ranOther, ranOtherRest]

theorem stays_then {first rest : KeyspaceScript Unit} (start : Stays realm first)
    (further : Stays realm rest) : Stays realm (first >>= fun _ => rest) :=
  confined_bind start fun _ _ => further

theorem run_look (look : Keyspace → Except String α) (space : Keyspace) :
    (do MonadExcept.ofExcept (look (← KeyspaceScript.current)) : KeyspaceScript α).run.run space =
      (look space, space) := by
  change (MonadExcept.ofExcept (look space) : KeyspaceScript α).run.run space = _
  cases look space <;> rfl

theorem confined_look (look : Keyspace → Except String α) {post : α → Prop}
    (sees : ∀ first second, Alike realm first second → look first = look second)
    (holds : ∀ space, space.Tidy realm → ∀ answer, look space = .ok answer → post answer) :
    Confined realm (do MonadExcept.ofExcept (look (← KeyspaceScript.current))) post := by
  intro first second alike tidy
  exact ⟨look first, first, second, run_look look first,
    sees first second alike ▸ run_look look second, alike, tidy, spared_refl first,
    holds first tidy⟩

theorem stays_pure (answer : α) : Stays realm (pure answer) :=
  confined_look (fun _ => .ok answer) (fun _ _ _ => rfl) fun _ _ _ _ => trivial

theorem stays_throw (reason : String) : Stays realm (throw reason : KeyspaceScript α) :=
  confined_look (fun _ => .error reason) (fun _ _ _ => rfl) fun _ _ _ _ => trivial

theorem stays_time : Stays realm KeyspaceScript.time :=
  confined_look (fun space => .ok space.seconds)
    (fun first second alike => by rw [seconds, seconds, alike.clock]) fun _ _ _ _ => trivial

theorem text_at_alike {first second : Keyspace} (alike : Alike realm first second) {key : String}
    (owned : realm.owns key) : first.textAt key = second.textAt key := by
  rw [textAt, textAt, alike.slots key owned]

theorem stays_get {key : String} (owned : realm.owns key) :
    Stays realm (KeyspaceScript.get key) :=
  confined_look (fun space => space.textAt key) (fun _ _ alike => text_at_alike alike owned)
    fun _ _ _ _ => trivial

theorem stays_get_all {keys : List String} (owned : ∀ key ∈ keys, realm.owns key) :
    Stays realm (KeyspaceScript.getAll keys) := by
  intro first second alike tidy
  refine ⟨_, first, second, rfl, ?_, alike, tidy, spared_refl first, fun _ _ => trivial⟩
  refine Prod.ext (congrArg Except.ok (List.map_congr_left fun key member => ?_)) rfl
  rw [text_at_alike alike (owned key member)]

theorem stays_change {key : String} (owned : realm.owns key) {change : Keyspace → Keyspace}
    (slot : Keyspace → Option Slot) (clock : ∀ space, (change space).clock = space.clock)
    (changed : ∀ space other, (change space).slots[other]? =
      if other = key then slot space else space.slots[other]?)
    (sees : ∀ first second, Alike realm first second → slot first = slot second)
    (tidies : ∀ space, space.Tidy realm → ∀ found, slot space = some found →
      found.content.Tidy realm) :
    Stays realm (modify change) := by
  intro first second alike tidy
  refine ⟨.ok (), change first, change second, rfl, rfl, ?_, ?_, ?_, fun _ _ => trivial⟩
  · refine ⟨by rw [clock, clock, alike.clock], fun other ownedOther => ?_⟩
    rw [changed, changed, sees first second alike, alike.slots other ownedOther]
  · intro other ownedOther found isThere
    rw [changed] at isThere
    split at isThere
    · exact tidies first tidy found isThere
    · exact tidy other ownedOther found isThere
  · refine ⟨clock first, fun other foreign => ?_⟩
    rw [changed, if_neg]
    rintro rfl
    exact foreign owned

theorem stays_set {key : String} (owned : realm.owns key) (value : String) (seconds : Nat) :
    Stays realm (KeyspaceScript.set key value seconds) := by
  refine stays_change owned
    (fun space => some ⟨.text value, some (space.clock + seconds * second)⟩)
    (fun space => Holdings.clock_put space key _) ?_ ?_ ?_
  · intro space other
    exact Holdings.get_put space key other _
  · intro first second alike
    simp only [alike.clock]
  · intro _ _ found written
    obtain rfl := Option.some.inj written
    trivial

theorem stays_delete {key : String} (owned : realm.owns key) :
    Stays realm (KeyspaceScript.delete key) :=
  stays_change owned (fun _ => none) (fun _ => rfl)
    (fun space other => Holdings.get_erase space key other) (fun _ _ _ => rfl) nofun

def keeping (content : Stored) (expiry : Option Nat) : Option Slot :=
  if isVoid content then none else some ⟨content, expiry⟩

theorem tidy_of_keeping {content : Stored} (tidy : content.Tidy realm) {expiry : Option Nat}
    {slot : Slot} (kept : keeping content expiry = some slot) : slot.content.Tidy realm := by
  unfold keeping at kept
  split at kept
  · contradiction
  · obtain rfl := Option.some.inj kept
    exact tidy

theorem stays_store_members {key : String} (owned : realm.owns key)
    {scores : Std.ExtTreeMap String Int} (texts : ∀ text ∈ scores, realm.admits text)
    (expiry : Option Nat) : Stays realm (KeyspaceScript.storeMembers key scores expiry) := by
  refine stays_change owned (fun _ => keeping (.members scores) expiry)
    (fun space => Holdings.clock_put space key _) (fun space other => ?_) (fun _ _ _ => rfl) ?_
  · exact Holdings.get_put space key other _
  · intro _ _ found kept
    have tidy : (Stored.members scores).Tidy realm := texts
    exact tidy_of_keeping tidy kept

theorem stays_expire {key : String} (owned : realm.owns key) (seconds : Nat) :
    Stays realm (KeyspaceScript.expire key seconds) := by
  refine stays_change owned (fun space => (space.slots[key]?).bind fun slot =>
    keeping slot.content (some (space.clock + seconds * second))) ?_ ?_ ?_ ?_
  · intro space
    split
    · rfl
    · exact Holdings.clock_put space key _
  · intro space other
    cases found : space.slots[key]? with
    | none =>
        by_cases same : other = key
        · subst same
          rw [if_pos rfl]
          exact found
        · rw [if_neg same]
    | some slot => exact Holdings.get_put space key other _
  · intro first second alike
    simp only [alike.slots key owned, alike.clock]
  · intro space tidy found kept
    obtain ⟨slot, isThere, keptSlot⟩ := Option.bind_eq_some_iff.mp kept
    exact tidy_of_keeping (tidy key owned slot isThere) keptSlot

theorem confined_members {key : String} (owned : realm.owns key) :
    Confined realm (KeyspaceScript.members key) fun found =>
      ∀ text ∈ found.1, realm.admits text := by
  refine confined_look (fun space => space.membersAt key) ?_ ?_
  · intro first second alike
    rw [membersAt, membersAt, alike.slots key owned]
  · intro space tidy found isThere
    unfold membersAt at isThere
    split at isThere
    · obtain rfl := Except.ok.inj isThere
      simp
    · rename_i scores expiry slot
      obtain rfl := Except.ok.inj isThere
      exact tidy key owned _ slot
    · contradiction

theorem stays_add_member {key member : String} (owned : realm.owns key)
    (admitted : realm.admits member) (score : Int) :
    Stays realm (KeyspaceScript.addMember key member score) := by
  refine confined_bind (confined_members owned) fun found texts => ?_
  refine stays_store_members owned (fun text inside => ?_) _
  rcases Std.ExtTreeMap.mem_insert.mp inside with same | before
  · exact Std.compare_eq_iff_eq.mp same ▸ admitted
  · exact texts text before

theorem stays_remove_member {key : String} (owned : realm.owns key) (text : String) :
    Stays realm (KeyspaceScript.removeMember key text) := by
  refine confined_bind (confined_members owned) fun found texts => ?_
  refine stays_store_members owned (fun other member => ?_) _
  exact texts other (Std.ExtTreeMap.mem_of_mem_erase member)

theorem stays_remove_up_to {key : String} (owned : realm.owns key) (score : Int) :
    Stays realm (KeyspaceScript.removeUpTo key score) := by
  refine confined_bind (confined_members owned) fun found texts => ?_
  refine stays_store_members owned (fun other member => ?_) _
  exact texts other (Std.ExtTreeMap.mem_of_mem_filter member)

theorem stays_count {key : String} (owned : realm.owns key) :
    Stays realm (KeyspaceScript.count key) :=
  confined_bind (confined_members owned) fun found _ => stays_pure found.1.size

theorem confined_range {key : String} (owned : realm.owns key) :
    Confined realm (KeyspaceScript.range key) fun found => ∀ text ∈ found, realm.admits text := by
  refine confined_bind (confined_members owned) fun found texts => ?_
  refine confined_look (fun _ => .ok ((found.1.toList.mergeSort
    fun first second => first.2 ≤ second.2).map (·.1))) (fun _ _ _ => rfl) ?_
  rintro _ _ _ same text member
  obtain rfl := Except.ok.inj same
  apply texts text
  rw [← Std.ExtTreeMap.mem_keys, ← Std.ExtTreeMap.map_fst_toList_eq_keys]
  simpa only [List.mem_map, List.mem_mergeSort] using member

end Commands

section Scripts

variable {names : KeyNames}

theorem stays_touch_index {realm : Realm} {key member : String} (owned : realm.owns key)
    (admitted : realm.admits member) (now seconds : Nat) :
    Stays realm (Script.touchIndex key member now seconds) :=
  stays_then (stays_add_member owned admitted _)
    (stays_then (stays_remove_up_to owned _) (stays_expire owned _))

theorem stays_write_each (cache : SharedCache) (entries : List SharedCache.Entry)
    (now seconds : Nat) :
    Stays (.of cache.names) (Script.writeEach cache.names.users now seconds
      (entries.flatMap cache.entryKeys) (entries.flatMap SharedCache.entryArguments)) := by
  induction entries with
  | nil => exact stays_pure ()
  | cons entry rest ih =>
      have ofEntry := cache.names.owns_entry ⟨entry.user, entry.channel⟩
      have ofUser := cache.names.owns_index (.ofUser entry.user)
      have ofChannel := cache.names.owns_index (.ofChannel entry.channel)
      have ofUsers := cache.names.owns_index .users
      refine stays_then (stays_set ofEntry _ _) ?_
      refine stays_then (stays_touch_index ofUser entry.channel.is_text_text _ _) ?_
      refine stays_then (stays_touch_index ofChannel entry.user.is_text_text _ _) ?_
      exact stays_then (stays_add_member ofUsers entry.user.is_text_text _) ih

theorem stays_drop_channels (user : UserId) {channels : List String}
    (texts : ∀ text ∈ channels, Uuid.IsText text) :
    Stays (.of names) (Script.dropChannels names user.text channels) := by
  induction channels with
  | nil => exact stays_pure ()
  | cons text rest ih =>
      obtain ⟨⟨channel, rfl⟩, restTexts⟩ := List.forall_mem_cons.mp texts
      exact stays_then (stays_delete (names.owns_entry ⟨user, channel⟩))
        (stays_then (stays_remove_member (names.owns_index (.ofChannel channel)) _)
          (ih restTexts))

theorem stays_forget_if_idle (user : UserId) :
    Stays (.of names) (Script.forgetIfIdle names.users (names.userIndex user.text) user.text) := by
  refine confined_bind (stays_count (names.owns_index (.ofUser user))) fun number _ => ?_
  split
  · exact stays_remove_member (names.owns_index .users) _
  · exact stays_pure ()

theorem stays_drop_users (channel : ChannelId) {users : List String}
    (texts : ∀ text ∈ users, Uuid.IsText text) :
    Stays (.of names) (Script.dropUsers names names.users channel.text users) := by
  induction users with
  | nil => exact stays_pure ()
  | cons text rest ih =>
      obtain ⟨⟨user, rfl⟩, restTexts⟩ := List.forall_mem_cons.mp texts
      refine stays_then (stays_delete (names.owns_entry ⟨user, channel⟩)) ?_
      refine stays_then (stays_remove_member (names.owns_index (.ofUser user)) _) ?_
      exact stays_then (stays_forget_if_idle user) (ih restTexts)

theorem stays_clear_channels (user : UserId) {channels : List String}
    (texts : ∀ text ∈ channels, Uuid.IsText text) :
    Stays (.of names) (Script.clearChannels names user.text channels) := by
  induction channels with
  | nil => exact stays_pure ()
  | cons text rest ih =>
      obtain ⟨⟨channel, rfl⟩, restTexts⟩ := List.forall_mem_cons.mp texts
      exact stays_then (stays_delete (names.owns_entry ⟨user, channel⟩))
        (stays_then (stays_delete (names.owns_index (.ofChannel channel))) (ih restTexts))

theorem stays_clear_users {users : List String} (texts : ∀ text ∈ users, Uuid.IsText text) :
    Stays (.of names) (Script.clearUsers names users) := by
  induction users with
  | nil => exact stays_pure ()
  | cons text rest ih =>
      obtain ⟨⟨user, rfl⟩, restTexts⟩ := List.forall_mem_cons.mp texts
      have ofUser := names.owns_index (.ofUser user)
      refine confined_bind (confined_range ofUser) fun channels channelTexts => ?_
      exact stays_then (stays_clear_channels user channelTexts)
        (stays_then (stays_delete ofUser) (ih restTexts))

end Scripts

namespace SharedCache

/-- A query that reaches the server does so by a command that stays within the scope. -/
def Exchange.StaysIn {α : Type} (names : KeyNames) : Exchange α → Prop
  | .settled _ => True
  | .asking command _ => Stays (.of names) command.perform

variable (cache : SharedCache)

theorem writing_stays (entries : List Entry) : (cache.writing entries).StaysIn cache.names := by
  unfold writing
  split
  · trivial
  · have ofUsers := cache.names.owns_index .users
    simp only [evaluating, Exchange.StaysIn, Command.perform, Script.perform]
    split
    · exact stays_throw _
    · refine confined_bind stays_time fun now _ => ?_
      exact stays_then (stays_write_each cache entries now _)
        (stays_then (stays_remove_up_to ofUsers _) (stays_expire ofUsers _))

theorem reading_stays (ids : List Uuid) (key : Uuid → EntryKey) :
    (reading ids fun id => cache.names.entryKey (key id)).StaysIn cache.names := by
  unfold reading
  split
  · trivial
  · apply stays_get_all
    rintro _ asked
    obtain ⟨id, _, rfl⟩ := List.mem_map.mp asked
    exact cache.names.owns_entry (key id)

theorem dropping_stays (scope : Invalidation) :
    (cache.exchange (.drop scope)).StaysIn cache.names := by
  have ofUsers := cache.names.owns_index .users
  cases scope with
  | all =>
      refine confined_bind (confined_range ofUsers) fun users texts => ?_
      exact stays_then (stays_clear_users texts) (stays_delete ofUsers)
  | ofChannel channel =>
      have ofChannel := cache.names.owns_index (.ofChannel channel)
      refine confined_bind (confined_range ofChannel) fun users texts => ?_
      exact stays_then (stays_drop_users channel texts) (stays_delete ofChannel)
  | ofUser user =>
      have ofUser := cache.names.owns_index (.ofUser user)
      refine confined_bind (confined_range ofUser) fun channels texts => ?_
      exact stays_then (stays_drop_channels user texts)
        (stays_then (stays_delete ofUser) (stays_remove_member ofUsers _))
  | ofEntry user channel =>
      refine stays_then (stays_delete (cache.names.owns_entry ⟨user, channel⟩)) ?_
      refine stays_then (stays_remove_member (cache.names.owns_index (.ofUser user)) _) ?_
      exact stays_then (stays_remove_member (cache.names.owns_index (.ofChannel channel)) _)
        (stays_forget_if_idle user)

theorem exchange_in_order_stays (order : List Entry) (query : CacheQuery) :
    (cache.exchangeInOrder order query).StaysIn cache.names := by
  cases query with
  | get user channel => exact stays_get (cache.names.owns_entry ⟨user, channel⟩)
  | set user channel mask => exact writing_stays cache order
  | getMany user channels => exact reading_stays cache channels fun channel => ⟨user, channel⟩
  | setMany user masks => exact writing_stays cache order
  | getManyUsers channel users => exact reading_stays cache users fun user => ⟨user, channel⟩
  | setManyUsers channel masks => exact writing_stays cache order
  | deleteByUser user => exact dropping_stays cache (.ofUser user)
  | deleteByChannel channel => exact dropping_stays cache (.ofChannel channel)
  | deleteExact user channel => exact dropping_stays cache (.ofEntry user channel)
  | deleteAll => exact dropping_stays cache .all

end SharedCache

end ChannelAccess
