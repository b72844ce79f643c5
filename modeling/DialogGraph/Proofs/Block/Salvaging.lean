import DialogGraph.Proofs.Block.Apart
import Mathlib.Data.List.Nodup

/-!
# Salvaging settings

Loose data is read by a strict reader, which turns a record down as soon as one of its values is bad
and tells where. What it tells of is dropped, and the rest is read once more. If the reader tells of
all fields that are bad and of no other, then the second attempt succeeds, and what comes of the two
is the same as reading field by field: every field holds its value if that is there and good, and its
initial value otherwise, whatever the others hold.
-/

namespace DialogGraph

open DialogGraph.Number DialogGraph.Text

/-! ### Reading field by field -/

/-- Whether what a field holds after it was set is independent of the settings it was set in. -/
def Field.Settles {α : Type} (field : Field α) : Prop :=
  ∀ value set, field.set? value = .ok set → ∀ a b, field.get (set a) = field.get (set b)

theorem Field.settles_make {α β : Type} {name : String} {read : Value → Except Problem β}
    {write : β → Value} {get : α → β} {put : α → β → α} (hput : ∀ a b, get (put a b) = b) :
    (make name read write get put).Settles := by
  intro value set hset a b
  obtain ⟨held, -, rfl⟩ := map_eq_ok_iff.1 hset
  calc write (get (put a held))
      = write held := congrArg write (hput a held)
    _ = write (get (put b held)) := congrArg write (hput b held).symm

/-- Settings in which every field can be set, independently of what the settings are. -/
class Settings.Settled (α : Type) [Settings α] : Prop where
  settles : ∀ field ∈ (Settings.fields : List (Field α)), field.Settles

/-- The settings of every kind of block can be set field by field. -/
instance (kind : Kind) : Settings.Settled kind.SettingsOf := by
  constructor
  cases kind <;>
    repeat' first
      | exact List.forall_mem_nil _
      | refine List.forall_mem_cons.2 ⟨?_, ?_⟩
      | exact Field.settles_make fun _ _ => rfl

namespace Settings

variable {α : Type} [Settings α] {data : Fields} {field : Field α}

/-- A value as a field holds it once it is set to it, if it is good. -/
def coerced (field : Field α) (value : Value) : Except Problem Value :=
  (field.set? value).map fun set => field.get (set initial)

/-- What a field is to hold after loose data was read: the value there, if it is good, and otherwise
what it holds initially. -/
def heldBy (data : Fields) (field : Field α) : Value :=
  match Assoc.get? data field.name with
  | none => field.get initial
  | some value =>
    match coerced field value with
    | .ok held => held
    | .error _ => field.get initial

theorem mem_rejectedNames_iff {name : String} : name ∈ rejectedNames α data ↔
    ∃ field ∈ (fields : List (Field α)), field.name = name ∧ ∃ value problem,
      Assoc.get? data field.name = some value ∧ field.set? value = .error problem := by
  rw [rejectedNames, List.mem_map]
  constructor
  · rintro ⟨field, hmem, rfl⟩
    obtain ⟨hfield, hbad⟩ := List.mem_filter.1 hmem
    cases hvalue : Assoc.get? data field.name with
    | none => simp [hvalue] at hbad
    | some value =>
      cases hset : field.set? value with
      | ok set => simp [hvalue, hset] at hbad
      | error problem => exact ⟨field, hfield, rfl, value, problem, hvalue, hset⟩
  · rintro ⟨field, hfield, rfl, value, problem, hvalue, hset⟩
    exact ⟨field, List.mem_filter.2 ⟨hfield, by simp [hvalue, hset]⟩, rfl⟩

omit [Settings α] in
theorem get_adopt_of_spares {other : Field α} (hspares : other.Spares field) (a : α) :
    field.get (adopt data a other) = field.get a := by
  rw [adopt]
  split
  · rfl
  next value hvalue =>
    split
    next set hset => exact hspares value set a hset
    · rfl

omit [Settings α] in
theorem get_foldl_adopt {others : List (Field α)}
    (hspares : ∀ other ∈ others, other.Spares field) (a : α) :
    field.get (others.foldl (adopt data) a) = field.get a := by
  induction others generalizing a with
  | nil => rfl
  | cons other rest ih =>
    obtain ⟨hother, hrest⟩ := List.forall_mem_cons.1 hspares
    rw [List.foldl_cons, ih hrest, get_adopt_of_spares hother]

/-- A field that is taken over while it holds its initial value holds what it is to hold. -/
theorem get_adopt_self (hsettles : field.Settles) {a : α}
    (hinitial : field.get a = field.get initial) :
    field.get (adopt data a field) = heldBy data field := by
  rw [adopt, heldBy]
  cases Assoc.get? data field.name with
  | none => exact hinitial
  | some value =>
    dsimp only
    rw [coerced]
    cases hset : field.set? value with
    | ok set => exact hsettles value set hset a initial
    | error problem => exact hinitial

/-- After loose data was read, every field holds what it is to hold. -/
theorem get_ofFields [hapart : Apart α] [hsettled : Settled α] (data : Fields)
    (hfield : field ∈ (fields : List (Field α))) :
    field.get (ofFields data) = heldBy data field := by
  obtain ⟨front, back, hsplit⟩ := List.append_of_mem hfield
  have hspares := hapart.spares
  rw [hsplit] at hspares
  obtain ⟨-, hlater, hearlier⟩ := List.pairwise_append.1 hspares
  have hback : ∀ other ∈ back, other.Spares field := fun other hother =>
    ((List.pairwise_cons.1 hlater).1 other hother).2
  have hfront : ∀ other ∈ front, other.Spares field := fun other hother =>
    (hearlier other hother field List.mem_cons_self).1
  rw [ofFields, hsplit, List.foldl_append, List.foldl_cons, get_foldl_adopt hback]
  exact get_adopt_self (hsettled.settles field hfield) (get_foldl_adopt hfront initial)

/-- Settings are determined by what their fields hold. -/
theorem eq_of_get_eq [ReadBack α] {a b : α}
    (hget : ∀ field ∈ (fields : List (Field α)), field.get a = field.get b) : a = b := by
  have hfields : toFields a = toFields b := by
    apply List.map_congr_left
    intro field hfield
    rw [hget field hfield]
  calc a = ofFields (toFields a) := (ofFields_toFields a).symm
    _ = ofFields (toFields b) := by rw [hfields]
    _ = b := ofFields_toFields b

end Settings

/-! ### A strict reader -/

/-- A step on the way to a value within nested ones. -/
inductive Step where
  | key (name : String)
  | index (n : Nat)
  deriving DecidableEq

def Step.text : Step → String
  | key name => name
  | index n => natText n

/-- The place of a value within nested ones. -/
abbrev Location := List Step

/-- A reader that turns a record down as a whole if something in it is bad, and then tells where. -/
abbrev StrictReader (α : Type) := Fields → Except (List Location) α

namespace StrictReader

variable {α : Type} [Settings α] {read : StrictReader α} {data : Fields}

/-- The names that locations begin with. -/
def faultyNames (locations : List Location) : List String :=
  locations.filterMap fun location => location.head?.map Step.text

/-- Reads loose data strictly; if it is turned down, reads what is left without the fields that the
locations begin with. -/
def salvage (read : StrictReader α) (data : Fields) : Except (List Location) α :=
  match read data with
  | .ok settings => .ok settings
  | .error locations =>
    read (data.filter fun entry => !(faultyNames locations).contains entry.1)

/-- What is relied on in a strict reader. -/
structure Lawful (read : StrictReader α) : Prop where
  /-- A record is turned down if and only if the value of some field is. -/
  accepts_iff : ∀ data, (∃ settings, read data = .ok settings) ↔ Settings.rejectedNames α data = []
  /-- The locations begin with the names of exactly those fields. -/
  located : ∀ data locations, read data = .error locations →
    (∀ location ∈ locations, ∃ name ∈ Settings.rejectedNames α data,
      location.head? = some (.key name)) ∧
    ∀ name ∈ Settings.rejectedNames α data, ∃ location ∈ locations,
      location.head? = some (.key name)
  /-- In settings that were read, a field that was given holds the value given. -/
  given : ∀ data settings, read data = .ok settings →
    ∀ field ∈ (Settings.fields : List (Field α)), ∀ value,
      Assoc.get? data field.name = some value →
        Settings.coerced field value = .ok (field.get settings)
  /-- A field that was not given holds what it holds initially. -/
  absent : ∀ data settings, read data = .ok settings →
    ∀ field ∈ (Settings.fields : List (Field α)), Assoc.get? data field.name = none →
      field.get settings = field.get Settings.initial

theorem Lawful.get_eq (hread : Lawful read) {settings : α} (hsettings : read data = .ok settings)
    {field : Field α} (hfield : field ∈ (Settings.fields : List (Field α))) :
    field.get settings = Settings.heldBy data field := by
  rw [Settings.heldBy]
  split
  next hnone => exact hread.absent data settings hsettings field hfield hnone
  next value hvalue => rw [hread.given data settings hsettings field hfield value hvalue]

/-- The names to be dropped are those of the fields that cannot be read. -/
theorem Lawful.mem_faultyNames_iff (hread : Lawful read) {locations : List Location}
    (hturned : read data = .error locations) {name : String} :
    name ∈ faultyNames locations ↔ name ∈ Settings.rejectedNames α data := by
  obtain ⟨hheads, hnames⟩ := hread.located data locations hturned
  rw [faultyNames, List.mem_filterMap]
  constructor
  · rintro ⟨location, hlocation, hname⟩
    obtain ⟨other, hother, hhead⟩ := hheads location hlocation
    rw [hhead] at hname
    obtain rfl : other = name := Option.some.inj hname
    exact hother
  · intro hname
    obtain ⟨location, hlocation, hhead⟩ := hnames name hname
    exact ⟨location, hlocation, by rw [hhead]; rfl⟩

/-- What is left after the faulty fields are dropped. -/
theorem Lawful.get?_cleaned (hread : Lawful read) {locations : List Location}
    (hturned : read data = .error locations) (name : String) :
    Assoc.get? (data.filter fun entry => !(faultyNames locations).contains entry.1) name =
      if name ∈ Settings.rejectedNames α data then none else Assoc.get? data name := by
  rw [Assoc.get?_filter data (fun key => !(faultyNames locations).contains key)]
  by_cases hname : name ∈ Settings.rejectedNames α data
  · have hfaulty := (hread.mem_faultyNames_iff hturned).2 hname
    simp [hname, hfaulty]
  · have hsound : name ∉ faultyNames locations := fun hfaulty =>
      hname ((hread.mem_faultyNames_iff hturned).1 hfaulty)
    simp [hname, hsound]

/-- What is left can be read. -/
theorem Lawful.rejectedNames_cleaned (hread : Lawful read) {locations : List Location}
    (hturned : read data = .error locations) :
    Settings.rejectedNames α
      (data.filter fun entry => !(faultyNames locations).contains entry.1) = [] := by
  rw [List.eq_nil_iff_forall_not_mem]
  intro name hname
  obtain ⟨field, hfield, rfl, value, problem, hvalue, hset⟩ :=
    Settings.mem_rejectedNames_iff.1 hname
  rw [hread.get?_cleaned hturned] at hvalue
  split_ifs at hvalue with hbad
  exact hbad (Settings.mem_rejectedNames_iff.2 ⟨field, hfield, rfl, value, problem, hvalue, hset⟩)

/-- Dropping the faulty fields does not change what any field is to hold. -/
theorem Lawful.heldBy_cleaned (hread : Lawful read) [Settings.ReadBack α]
    {locations : List Location} (hturned : read data = .error locations) {field : Field α}
    (hfield : field ∈ (Settings.fields : List (Field α))) :
    Settings.heldBy (data.filter fun entry => !(faultyNames locations).contains entry.1) field =
      Settings.heldBy data field := by
  rw [Settings.heldBy, Settings.heldBy, hread.get?_cleaned hturned]
  split_ifs with hbad
  · obtain ⟨other, hother, hname, value, problem, hvalue, hset⟩ :=
      Settings.mem_rejectedNames_iff.1 hbad
    -- Names are names of one field each, so the bad value is this field's own.
    obtain rfl : other = field :=
      List.inj_on_of_nodup_map Settings.ReadBack.nodup_names hother hfield hname
    rw [hvalue]
    simp only [Settings.coerced, hset]
    rfl
  · rfl

variable [Settings.ReadBack α] [Settings.Apart α] [Settings.Settled α]

theorem Lawful.eq_ofFields (hread : Lawful read) {settings : α}
    (hsettings : read data = .ok settings) : settings = Settings.ofFields data := by
  apply Settings.eq_of_get_eq
  intro field hfield
  rw [hread.get_eq hsettings hfield, Settings.get_ofFields data hfield]

/-- Salvaging succeeds and comes to the same as reading field by field. -/
theorem Lawful.salvage_eq (hread : Lawful read) (data : Fields) :
    salvage read data = .ok (Settings.ofFields data) := by
  rw [salvage]
  split
  next settings hsettings => rw [hread.eq_ofFields hsettings]
  next locations hturned =>
    obtain ⟨settings, hsettings⟩ :=
      (hread.accepts_iff _).2 (hread.rejectedNames_cleaned hturned)
    rw [hsettings]
    congr 1
    apply Settings.eq_of_get_eq
    intro field hfield
    rw [hread.get_eq hsettings hfield, hread.heldBy_cleaned hturned hfield,
      Settings.get_ofFields data hfield]

end StrictReader

/-- For every kind of block, salvaging loose data never fails. Each field then holds the value in the
data if it is there and good, and what it holds initially otherwise; nothing but the values at the
names of fields counts. -/
theorem Config.salvage_field_by_field (kind : Kind) {read : StrictReader kind.SettingsOf}
    (hread : read.Lawful) (data : Fields) :
    ∃ settings, read.salvage data = .ok settings ∧
      Config.ofFields kind data = ⟨kind, settings⟩ ∧
      (∀ field ∈ (Settings.fields : List (Field kind.SettingsOf)),
        field.get settings = Settings.heldBy data field) ∧
      ∀ other, (∀ field ∈ (Settings.fields : List (Field kind.SettingsOf)),
        Assoc.get? other field.name = Assoc.get? data field.name) →
          read.salvage other = .ok settings := by
  refine ⟨Settings.ofFields data, hread.salvage_eq data, rfl,
    fun _ hfield => Settings.get_ofFields data hfield, ?_⟩
  intro other hother
  rw [hread.salvage_eq other]
  congr 1
  apply Settings.eq_of_get_eq
  intro field hfield
  rw [Settings.get_ofFields other hfield, Settings.get_ofFields data hfield, Settings.heldBy,
    Settings.heldBy, hother field hfield]

/-! ### A lawful reader -/

/-- A strict reader that tells of the places which a search finds within the value of a bad field, or
of the field itself if it finds none. -/
def StrictReader.ofSearch {α : Type} [Settings α] (search : String → Value → List Location) :
    StrictReader α := fun data =>
  if Settings.rejectedNames α data = [] then .ok (Settings.ofFields data)
  else .error ((Settings.rejectedNames α data).flatMap fun name =>
    match search name ((Assoc.get? data name).getD .null) with
    | [] => [[.key name]]
    | places => places.map fun place => .key name :: place)

theorem StrictReader.lawful_ofSearch {α : Type} [Settings α] [Settings.Apart α]
    [Settings.Settled α] (search : String → Value → List Location) :
    (ofSearch search : StrictReader α).Lawful := by
  have hok : ∀ data settings, (ofSearch search : StrictReader α) data = .ok settings →
      Settings.rejectedNames α data = [] ∧ Settings.ofFields data = settings := by
    intro data settings hsettings
    rw [ofSearch] at hsettings
    split_ifs at hsettings with hnames
    exact ⟨hnames, Except.ok.inj hsettings⟩
  constructor
  case accepts_iff =>
    intro data
    constructor
    · rintro ⟨settings, hsettings⟩
      exact (hok data settings hsettings).1
    · intro hnames
      exact ⟨Settings.ofFields data, by rw [ofSearch, if_pos hnames]⟩
  case located =>
    intro data locations hlocations
    rw [ofSearch] at hlocations
    split_ifs at hlocations
    obtain rfl := Except.error.inj hlocations
    constructor
    · intro location hlocation
      obtain ⟨name, hname, hplace⟩ := List.mem_flatMap.1 hlocation
      refine ⟨name, hname, ?_⟩
      split at hplace
      next =>
        rw [List.mem_singleton.1 hplace]
        rfl
      next =>
        obtain ⟨place, -, rfl⟩ := List.mem_map.1 hplace
        rfl
    · intro name hname
      cases hplaces : search name ((Assoc.get? data name).getD .null) with
      | nil =>
        refine ⟨[.key name], List.mem_flatMap.2 ⟨name, hname, ?_⟩, rfl⟩
        simp [hplaces]
      | cons place rest =>
        refine ⟨.key name :: place, List.mem_flatMap.2 ⟨name, hname, ?_⟩, rfl⟩
        simp [hplaces]
  case given =>
    intro data settings hsettings field hfield value hvalue
    obtain ⟨hnames, rfl⟩ := hok data settings hsettings
    rw [Settings.get_ofFields data hfield, Settings.heldBy, hvalue]
    cases hset : field.set? value with
    | ok set =>
      have hcoerced : Settings.coerced field value = .ok (field.get (set Settings.initial)) := by
        rw [Settings.coerced, hset]
        rfl
      simp only [hcoerced]
    | error problem =>
      have hbad := Settings.mem_rejectedNames_iff.2
        ⟨field, hfield, rfl, value, problem, hvalue, hset⟩
      rw [hnames] at hbad
      cases hbad
  case absent =>
    intro data settings hsettings field hfield hnone
    obtain ⟨-, rfl⟩ := hok data settings hsettings
    rw [Settings.get_ofFields data hfield, Settings.heldBy, hnone]

/-- The places within a list of buttons where something is bad. -/
def badButtons : Value → List Location
  | .list items => items.zipIdx.flatMap fun (item, i) =>
    match item with
    | .record data => (Settings.rejectedNames Button data).map fun name => [.index i, .key name]
    | _ => [[.index i]]
  | _ => []

/-- A strict reader for keyboards, which tells of bad buttons one by one. -/
def keyboardReader : StrictReader (Kind.SettingsOf .inlineKeyboard) :=
  .ofSearch fun name value => if name = "buttons" then badButtons value else []

/-- Data of a keyboard with a bad label on the second button, and with a key that is no field. -/
def keyboardData : Fields :=
  [("buttons", .list [
      .record [("text", .text "Yes"), ("callback_data", .text "yes")],
      .record [("text", .int 5)]]),
    ("colour", .text "red"), ("message", .text "Choose")]

/-- `Config.salvage_field_by_field` at `keyboardData`: the buttons are the initial ones, and the
message is the one that was given. -/
theorem salvage_keyboardData :
    keyboardReader.Lawful ∧
      keyboardReader keyboardData = .error [[.key "buttons", .index 1, .key "text"]] ∧
      ∃ settings : InlineKeyboardSettings, keyboardReader.salvage keyboardData = .ok settings ∧
        settings.message = "Choose" ∧ settings.buttons = [{}] := by
  have hlawful : keyboardReader.Lawful := StrictReader.lawful_ofSearch _
  refine ⟨hlawful, rfl, ?_⟩
  obtain ⟨settings, hsalvage, hsettings, -, -⟩ :=
    Config.salvage_field_by_field .inlineKeyboard hlawful keyboardData
  obtain rfl := eq_of_heq (Config.mk.inj hsettings).2
  exact ⟨_, hsalvage, rfl, rfl⟩

end DialogGraph
