import BoostFeed.Proofs.Json.Generic
import BoostFeed.Feed.Wire

/-! What the written form of an event says, field by field, and that the reader and the writer of events agree on it, on
a text as on generic data. -/

namespace BoostFeed.Feed

open Json Tree

namespace Payment

/-- What a record says of a payment. -/
structure Members (r : Record) (p : Payment) : Prop where
  hash : r.Member "payment_hash" "" IsText p.hash
  pubkey : r.Member "pubkey" "" IsText p.pubkey
  customKey : r.Member "custom_key" none (Nullable IsUInt64) p.customKey
  customValue : r.Member "custom_value" none (Nullable IsText) p.customValue
  feeMsat : r.Member "fee_msat" 0 IsInt64 p.feeMsat
  replyTo : r.Member "reply_to_idx" none (Nullable IsUInt64) p.replyTo

def Written : Form Payment := OfRecord (fields.map Field.name) Members

theorem reads : Reads ofTree? Written := reads_record (by decide) fun r p => by
  simp only [Option.bind_eq_bind, Option.bind_eq_some_iff, Option.pure_def, Record.field_eq_some_iff reads_text,
    Record.field_eq_some_iff reads_int64, Record.optional_eq_some_iff reads_text not_isText_null,
    Record.optional_eq_some_iff reads_uint64 not_isUInt64_null]
  constructor
  · rintro ⟨_, hhash, _, hpubkey, _, hkey, _, hvalue, _, hfee, _, hreply, ⟨⟩⟩
    exact ⟨hhash, hpubkey, hkey, hvalue, hfee, hreply⟩
  · rintro ⟨hhash, hpubkey, hkey, hvalue, hfee, hreply⟩
    exact ⟨_, hhash, _, hpubkey, _, hkey, _, hvalue, _, hfee, _, hreply, rfl⟩

theorem writes : Writes toTree Written := fun p =>
  ⟨_, sets_ofFields (by decide) rfl, .of_lookup rfl (writes_text p.hash), .of_lookup rfl (writes_text p.pubkey),
    .of_lookup rfl (writes_nullable writes_uint64 p.customKey),
    .of_lookup rfl (writes_nullable writes_text p.customValue), .of_lookup rfl (writes_int64 p.feeMsat),
    .of_lookup rfl (writes_nullable writes_uint64 p.replyTo)⟩

theorem kept : Kept Written := kept_record fun _ _ _ h hp =>
  ⟨hp.hash.kept kept_text h, hp.pubkey.kept kept_text h, hp.customKey.kept (kept_nullable kept_uint64) h,
    hp.customValue.kept (kept_nullable kept_text) h, hp.feeMsat.kept kept_int64 h,
    hp.replyTo.kept (kept_nullable kept_uint64) h⟩

theorem fits (room : Nat) (p : Payment) : Fits (room + 1) p.toTree := fits_ofFields <| by
  simp only [List.map_cons, List.map_nil, List.forall_mem_cons]
  exact ⟨fits_text room _, fits_text room _, fits_ofOption (fits_uint64 room) _, fits_ofOption (fits_text room) _,
    fits_int64 room _, fits_ofOption (fits_uint64 room) _, nofun⟩

end Payment

namespace NoteEffect

/-- What a record says of a note. -/
structure Members (r : Record) (n : NoteEffect) : Prop where
  note : r.Member "note" none (Nullable IsUInt8) n.note
  velocity : r.Member "velocity" none (Nullable IsUInt8) n.velocity
  channel : r.Member "channel" none (Nullable IsUInt8) n.channel
  duration : r.Member "duration" none (Nullable IsUInt64) n.duration

def Written : Form NoteEffect := OfRecord (fields.map Field.name) Members

theorem reads : Reads ofTree? Written := reads_record (by decide) fun r n => by
  simp only [Option.bind_eq_bind, Option.bind_eq_some_iff, Option.pure_def,
    Record.optional_eq_some_iff reads_uint8 not_isUInt8_null,
    Record.optional_eq_some_iff reads_uint64 not_isUInt64_null]
  constructor
  · rintro ⟨_, hnote, _, hvelocity, _, hchannel, _, hduration, ⟨⟩⟩
    exact ⟨hnote, hvelocity, hchannel, hduration⟩
  · rintro ⟨hnote, hvelocity, hchannel, hduration⟩
    exact ⟨_, hnote, _, hvelocity, _, hchannel, _, hduration, rfl⟩

theorem writes : Writes toTree Written := fun n =>
  ⟨_, sets_ofFields (by decide) rfl, .of_lookup rfl (writes_nullable writes_uint8 n.note),
    .of_lookup rfl (writes_nullable writes_uint8 n.velocity), .of_lookup rfl (writes_nullable writes_uint8 n.channel),
    .of_lookup rfl (writes_nullable writes_uint64 n.duration)⟩

theorem kept : Kept Written := kept_record fun _ _ _ h hn =>
  ⟨hn.note.kept (kept_nullable kept_uint8) h, hn.velocity.kept (kept_nullable kept_uint8) h,
    hn.channel.kept (kept_nullable kept_uint8) h, hn.duration.kept (kept_nullable kept_uint64) h⟩

theorem fits (room : Nat) (n : NoteEffect) : Fits (room + 1) n.toTree := fits_ofFields <| by
  simp only [List.map_cons, List.map_nil, List.forall_mem_cons]
  exact ⟨fits_ofOption (fits_uint8 room) _, fits_ofOption (fits_uint8 room) _, fits_ofOption (fits_uint8 room) _,
    fits_ofOption (fits_uint64 room) _, nofun⟩

end NoteEffect

namespace SoundEffect

/-- What a record says of a sound. -/
structure Members (r : Record) (s : SoundEffect) : Prop where
  file : r.Member "sound_file" "" IsText s.file
  name : r.Member "sound_name" "" IsText s.name

def Written : Form SoundEffect := OfRecord (fields.map Field.name) Members

theorem reads : Reads ofTree? Written := reads_record (by decide) fun r s => by
  simp only [Option.bind_eq_bind, Option.bind_eq_some_iff, Option.pure_def, Record.field_eq_some_iff reads_text]
  constructor
  · rintro ⟨_, hfile, _, hname, ⟨⟩⟩
    exact ⟨hfile, hname⟩
  · rintro ⟨hfile, hname⟩
    exact ⟨_, hfile, _, hname, rfl⟩

theorem writes : Writes toTree Written := fun s =>
  ⟨_, sets_ofFields (by decide) rfl, .of_lookup rfl (writes_text s.file), .of_lookup rfl (writes_text s.name)⟩

theorem kept : Kept Written := kept_record fun _ _ _ h hs =>
  ⟨hs.file.kept kept_text h, hs.name.kept kept_text h⟩

theorem fits (room : Nat) (s : SoundEffect) : Fits (room + 1) s.toTree := fits_ofFields <| by
  simp only [List.map_cons, List.map_nil, List.forall_mem_cons]
  exact ⟨fits_text room _, fits_text room _, nofun⟩

end SoundEffect

namespace Effect

/-- What a record says of a playback request. -/
structure Members (r : Record) (e : Effect) : Prop where
  note : r.Member "midi" none (Nullable NoteEffect.Written) e.note
  sound : r.Member "sound" none (Nullable SoundEffect.Written) e.sound

def Written : Form Effect := OfRecord (fields.map Field.name) Members

theorem reads : Reads ofTree? Written := reads_record (by decide) fun r e => by
  simp only [Option.bind_eq_bind, Option.bind_eq_some_iff, Option.pure_def,
    Record.optional_eq_some_iff NoteEffect.reads not_ofRecord_null,
    Record.optional_eq_some_iff SoundEffect.reads not_ofRecord_null]
  constructor
  · rintro ⟨_, hnote, _, hsound, ⟨⟩⟩
    exact ⟨hnote, hsound⟩
  · rintro ⟨hnote, hsound⟩
    exact ⟨_, hnote, _, hsound, rfl⟩

theorem writes : Writes toTree Written := fun e =>
  ⟨_, sets_ofFields (by decide) rfl, .of_lookup rfl (writes_nullable NoteEffect.writes e.note),
    .of_lookup rfl (writes_nullable SoundEffect.writes e.sound)⟩

theorem kept : Kept Written := kept_record fun _ _ _ h he =>
  ⟨he.note.kept (kept_nullable NoteEffect.kept) h, he.sound.kept (kept_nullable SoundEffect.kept) h⟩

theorem fits (room : Nat) (e : Effect) : Fits (room + 2) e.toTree := fits_ofFields <| by
  simp only [List.map_cons, List.map_nil, List.forall_mem_cons]
  exact ⟨fits_ofOption (NoteEffect.fits room) _, fits_ofOption (SoundEffect.fits room) _, nofun⟩

end Effect

namespace Action

/-- An action is written as its code; any other code is that of an unknown action. -/
def Written : Form Action := fun t a => ∃ c : UInt8, t = .ofNat c.toNat ∧ (a.code = c ∨ a = .unknown ∧ 5 < c)

theorem ofCode_eq_iff {c : UInt8} {a : Action} : ofCode c = a ↔ a.code = c ∨ a = .unknown ∧ 5 < c := by
  constructor
  · rintro rfl
    simp only [ofCode]
    split <;> simp_all [code, ← UInt8.toNat_inj, UInt8.lt_iff_toNat_lt]
    omega
  · rintro (rfl | ⟨rfl, hc⟩)
    · exact ofCode_code a
    · simp only [ofCode]
      split <;> simp_all [UInt8.lt_iff_toNat_lt]

variable {r : Record} {a : Action}

theorem field_iff :
    (∃ c, r.field "action" 0 uint8? = some c ∧ ofCode c = a) ↔ r.Member "action" .unknown Written a := by
  simp only [Record.field_eq_some_iff reads_uint8]
  unfold Record.Member
  cases r.lookup "action" with
  | none => simp [ofCode, eq_comm]
  | some t => simp only [Written, IsUInt8, ofCode_eq_iff]

theorem exists_written_iff {t : Tree} : (∃ a, Written t a) ↔ ∃ c, IsUInt8 t c := by
  constructor
  · rintro ⟨a, c, ht, -⟩
    exact ⟨c, ht⟩
  · rintro ⟨c, ht⟩
    exact ⟨ofCode c, c, ht, ofCode_eq_iff.mp rfl⟩

theorem exists_member_iff : (∃ a, r.Member "action" .unknown Written a) ↔ r.Holds "action" IsUInt8 := by
  simp only [Record.exists_member_iff, Record.Holds, exists_written_iff]

theorem writes : Writes (fun a => .ofNat a.code.toNat) Written := fun a => ⟨a.code, rfl, .inl rfl⟩

theorem kept : Kept Written := by
  rintro t u a hu ⟨c, ht, hc⟩
  exact ⟨c, kept_uint8 t u c hu ht, hc⟩

end Action

namespace Event

/-- What a record says of an event. A field that is not there has its default. -/
structure Members (r : Record) (e : Event) : Prop where
  index : r.Member "index" 0 IsUInt64 e.index
  timestamp : r.Member "time" 0 IsInt64 e.timestamp
  valueMsat : r.Member "value_msat" 0 IsInt64 e.valueMsat
  totalMsat : r.Member "value_msat_total" 0 IsInt64 e.totalMsat
  action : r.Member "action" .unknown Action.Written e.action
  sender : r.Member "sender" "" IsText e.sender
  app : r.Member "app" "" IsText e.app
  message : r.Member "message" "" IsText e.message
  podcast : r.Member "podcast" "" IsText e.podcast
  episode : r.Member "episode" "" IsText e.episode
  tlv : r.Member "tlv" "" IsText e.tlv
  remotePodcast : r.Member "remote_podcast" none (Nullable IsText) e.remotePodcast
  remoteEpisode : r.Member "remote_episode" none (Nullable IsText) e.remoteEpisode
  replySent : r.Member "reply_sent" false IsTruth e.replySent
  customKey : r.Member "custom_key" none (Nullable IsUInt64) e.customKey
  customValue : r.Member "custom_value" none (Nullable IsText) e.customValue
  payment : r.Member "payment_info" none (Nullable Payment.Written) e.payment
  effects : r.Member "effects" [] (Items Effect.Written) e.effects

def Written : Form Event := OfRecord (fields.map Field.name) Members

theorem Members.congr {r r' : Record} {e : Event} (he : Members r e)
    (h : ∀ name ∈ fields.map Field.name, r'.lookup name = r.lookup name) : Members r' e :=
  ⟨he.index.congr (h _ (by decide)), he.timestamp.congr (h _ (by decide)), he.valueMsat.congr (h _ (by decide)),
    he.totalMsat.congr (h _ (by decide)), he.action.congr (h _ (by decide)), he.sender.congr (h _ (by decide)),
    he.app.congr (h _ (by decide)), he.message.congr (h _ (by decide)), he.podcast.congr (h _ (by decide)),
    he.episode.congr (h _ (by decide)), he.tlv.congr (h _ (by decide)), he.remotePodcast.congr (h _ (by decide)),
    he.remoteEpisode.congr (h _ (by decide)), he.replySent.congr (h _ (by decide)),
    he.customKey.congr (h _ (by decide)), he.customValue.congr (h _ (by decide)), he.payment.congr (h _ (by decide)),
    he.effects.congr (h _ (by decide))⟩

theorem written_ofFields_iff {ms : Record} (hkeys : (ms.map Prod.fst).Nodup) {e : Event} :
    Written (.ofFields ms) e ↔ Members ms e :=
  ofRecord_ofFields_iff (fun _ _ _ h he => he.congr h) hkeys

/-- Every field that is there has its type. -/
structure WellTyped (r : Record) : Prop where
  index : r.Holds "index" IsUInt64
  timestamp : r.Holds "time" IsInt64
  valueMsat : r.Holds "value_msat" IsInt64
  totalMsat : r.Holds "value_msat_total" IsInt64
  action : r.Holds "action" IsUInt8
  sender : r.Holds "sender" IsText
  app : r.Holds "app" IsText
  message : r.Holds "message" IsText
  podcast : r.Holds "podcast" IsText
  episode : r.Holds "episode" IsText
  tlv : r.Holds "tlv" IsText
  remotePodcast : r.Holds "remote_podcast" (Nullable IsText)
  remoteEpisode : r.Holds "remote_episode" (Nullable IsText)
  replySent : r.Holds "reply_sent" IsTruth
  customKey : r.Holds "custom_key" (Nullable IsUInt64)
  customValue : r.Holds "custom_value" (Nullable IsText)
  payment : r.Holds "payment_info" (Nullable Payment.Written)
  effects : r.Holds "effects" (Items Effect.Written)

theorem exists_members_iff {r : Record} : (∃ e, Members r e) ↔ WellTyped r := by
  constructor
  · rintro ⟨e, he⟩
    exact ⟨Record.exists_member_iff.mp ⟨_, he.index⟩, Record.exists_member_iff.mp ⟨_, he.timestamp⟩,
      Record.exists_member_iff.mp ⟨_, he.valueMsat⟩, Record.exists_member_iff.mp ⟨_, he.totalMsat⟩,
      Action.exists_member_iff.mp ⟨_, he.action⟩, Record.exists_member_iff.mp ⟨_, he.sender⟩,
      Record.exists_member_iff.mp ⟨_, he.app⟩, Record.exists_member_iff.mp ⟨_, he.message⟩,
      Record.exists_member_iff.mp ⟨_, he.podcast⟩, Record.exists_member_iff.mp ⟨_, he.episode⟩,
      Record.exists_member_iff.mp ⟨_, he.tlv⟩, Record.exists_member_iff.mp ⟨_, he.remotePodcast⟩,
      Record.exists_member_iff.mp ⟨_, he.remoteEpisode⟩, Record.exists_member_iff.mp ⟨_, he.replySent⟩,
      Record.exists_member_iff.mp ⟨_, he.customKey⟩, Record.exists_member_iff.mp ⟨_, he.customValue⟩,
      Record.exists_member_iff.mp ⟨_, he.payment⟩, Record.exists_member_iff.mp ⟨_, he.effects⟩⟩
  · intro h
    obtain ⟨_, hindex⟩ := Record.exists_member_iff.mpr h.index
    obtain ⟨_, htime⟩ := Record.exists_member_iff.mpr h.timestamp
    obtain ⟨_, hvalue⟩ := Record.exists_member_iff.mpr h.valueMsat
    obtain ⟨_, htotal⟩ := Record.exists_member_iff.mpr h.totalMsat
    obtain ⟨_, haction⟩ := Action.exists_member_iff.mpr h.action
    obtain ⟨_, hsender⟩ := Record.exists_member_iff.mpr h.sender
    obtain ⟨_, happ⟩ := Record.exists_member_iff.mpr h.app
    obtain ⟨_, hmessage⟩ := Record.exists_member_iff.mpr h.message
    obtain ⟨_, hpodcast⟩ := Record.exists_member_iff.mpr h.podcast
    obtain ⟨_, hepisode⟩ := Record.exists_member_iff.mpr h.episode
    obtain ⟨_, htlv⟩ := Record.exists_member_iff.mpr h.tlv
    obtain ⟨_, hremotePodcast⟩ := Record.exists_member_iff.mpr h.remotePodcast
    obtain ⟨_, hremoteEpisode⟩ := Record.exists_member_iff.mpr h.remoteEpisode
    obtain ⟨_, hreplySent⟩ := Record.exists_member_iff.mpr h.replySent
    obtain ⟨_, hkey⟩ := Record.exists_member_iff.mpr h.customKey
    obtain ⟨_, hcustom⟩ := Record.exists_member_iff.mpr h.customValue
    obtain ⟨_, hpayment⟩ := Record.exists_member_iff.mpr h.payment
    obtain ⟨_, heffects⟩ := Record.exists_member_iff.mpr h.effects
    exact ⟨⟨_, _, _, _, _, _, _, _, _, _, _, _, _, _, _, _, _, _⟩, hindex, htime, hvalue, htotal, haction, hsender,
      happ, hmessage, hpodcast, hepisode, htlv, hremotePodcast, hremoteEpisode, hreplySent, hkey, hcustom, hpayment,
      heffects⟩

theorem reads : Reads ofTree? Written := reads_record (by decide) fun r e => by
  -- From the outside in: eighteen binds are too many for `simp` to visit twice.
  dsimp only [Option.bind_eq_bind, Option.pure_def]
  simp only [↓Option.bind_eq_some_iff, Record.field_eq_some_iff reads_text,
    Record.field_eq_some_iff reads_bool, Record.field_eq_some_iff reads_uint64, Record.field_eq_some_iff reads_int64,
    Record.optional_eq_some_iff reads_text not_isText_null, Record.optional_eq_some_iff reads_uint64 not_isUInt64_null,
    Record.optional_eq_some_iff Payment.reads not_ofRecord_null, Record.field_eq_some_iff (reads_list Effect.reads)]
  constructor
  · rintro ⟨_, hindex, _, htime, _, hvalue, _, htotal, c, hcode, _, hsender, _, happ, _, hmessage, _, hpodcast,
      _, hepisode, _, htlv, _, hremotePodcast, _, hremoteEpisode, _, hreplySent, _, hkey, _, hcustom, _, hpayment,
      _, heffects, ⟨⟩⟩
    exact ⟨hindex, htime, hvalue, htotal, Action.field_iff.mp ⟨c, hcode, rfl⟩, hsender, happ, hmessage, hpodcast,
      hepisode, htlv, hremotePodcast, hremoteEpisode, hreplySent, hkey, hcustom, hpayment, heffects⟩
  · rintro ⟨hindex, htime, hvalue, htotal, haction, hsender, happ, hmessage, hpodcast, hepisode, htlv, hremotePodcast,
      hremoteEpisode, hreplySent, hkey, hcustom, hpayment, heffects⟩
    obtain ⟨c, hcode, hc⟩ := Action.field_iff.mpr haction
    refine ⟨_, hindex, _, htime, _, hvalue, _, htotal, c, hcode, _, hsender, _, happ, _, hmessage, _, hpodcast,
      _, hepisode, _, htlv, _, hremotePodcast, _, hremoteEpisode, _, hreplySent, _, hkey, _, hcustom, _, hpayment,
      _, heffects, ?_⟩
    rw [hc]

theorem writes : Writes toTree Written := fun e =>
  ⟨_, sets_ofFields (by decide) rfl, .of_lookup rfl (writes_uint64 e.index), .of_lookup rfl (writes_int64 e.timestamp),
    .of_lookup rfl (writes_int64 e.valueMsat), .of_lookup rfl (writes_int64 e.totalMsat),
    .of_lookup rfl (Action.writes e.action), .of_lookup rfl (writes_text e.sender), .of_lookup rfl (writes_text e.app),
    .of_lookup rfl (writes_text e.message), .of_lookup rfl (writes_text e.podcast),
    .of_lookup rfl (writes_text e.episode), .of_lookup rfl (writes_text e.tlv),
    .of_lookup rfl (writes_nullable writes_text e.remotePodcast),
    .of_lookup rfl (writes_nullable writes_text e.remoteEpisode), .of_lookup rfl (writes_bool e.replySent),
    .of_lookup rfl (writes_nullable writes_uint64 e.customKey),
    .of_lookup rfl (writes_nullable writes_text e.customValue),
    .of_lookup rfl (writes_nullable Payment.writes e.payment), .of_lookup rfl (writes_items Effect.writes e.effects)⟩

theorem kept : Kept Written := kept_record fun _ _ _ h he =>
  ⟨he.index.kept kept_uint64 h, he.timestamp.kept kept_int64 h, he.valueMsat.kept kept_int64 h,
    he.totalMsat.kept kept_int64 h, he.action.kept Action.kept h, he.sender.kept kept_text h, he.app.kept kept_text h,
    he.message.kept kept_text h, he.podcast.kept kept_text h, he.episode.kept kept_text h, he.tlv.kept kept_text h,
    he.remotePodcast.kept (kept_nullable kept_text) h, he.remoteEpisode.kept (kept_nullable kept_text) h,
    he.replySent.kept kept_truth h, he.customKey.kept (kept_nullable kept_uint64) h,
    he.customValue.kept (kept_nullable kept_text) h, he.payment.kept (kept_nullable Payment.kept) h,
    he.effects.kept (kept_items Effect.kept) h⟩

theorem fits (room : Nat) (e : Event) : Fits (room + 4) e.toTree := fits_ofFields <| by
  simp only [List.map_cons, List.map_nil, List.forall_mem_cons]
  exact ⟨fits_uint64 _ _, fits_int64 _ _, fits_int64 _ _, fits_int64 _ _, fits_uint8 _ _, fits_text _ _, fits_text _ _,
    fits_text _ _, fits_text _ _, fits_text _ _, fits_text _ _, fits_ofOption (fits_text _) _,
    fits_ofOption (fits_text _) _, fits_bool _ _, fits_ofOption (fits_uint64 _) _, fits_ofOption (fits_text _) _,
    fits_ofOption (Payment.fits (room + 2)) _, fits_ofList (Effect.fits room) _, nofun⟩

end Event

end BoostFeed.Feed
