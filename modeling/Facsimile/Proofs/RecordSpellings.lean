import Facsimile.Json.Record

/-!
# Spellings of records

A record is written as an object or as the list of its members.  Members that have a default may be
left out, and in an object members of other names are passed over.  A decoder that may open as many
arrays and objects as a document nests comes to the same members for each of these documents.
-/

namespace Facsimile

open Json

/-! ## Nesting -/

namespace Json.Doc

mutual
/-- How many arrays and objects stand one within another. -/
def nesting : Doc → Nat
  | .array items => nestingOfItems items + 1
  | .object members => nestingOfMembers members + 1
  | _ => 0

def nestingOfItems : List Doc → Nat
  | [] => 0
  | d :: ds => max (nesting d) (nestingOfItems ds)

def nestingOfMembers : List (Option String × Doc) → Nat
  | [] => 0
  | (_, d) :: ms => max (nesting d) (nestingOfMembers ms)
end

theorem nesting_item {d : Doc} {items : List Doc} (h : d ∈ items) :
    d.nesting < (Doc.array items).nesting := by
  show d.nesting < nestingOfItems items + 1
  induction items with
  | nil => cases h
  | cons e items ih =>
    rw [nestingOfItems]
    rcases List.mem_cons.mp h with rfl | h
    · omega
    · have := ih h
      omega

theorem nesting_member {name : Option String} {d : Doc} {members : List (Option String × Doc)}
    (h : (name, d) ∈ members) : d.nesting < (Doc.object members).nesting := by
  show d.nesting < nestingOfMembers members + 1
  induction members with
  | nil => cases h
  | cons m members ih =>
    obtain ⟨n, e⟩ := m
    rw [nestingOfMembers]
    rcases List.mem_cons.mp h with heq | h
    · cases heq
      omega
    · have := ih h
      omega

end Json.Doc

/-! ## Values -/

/-- A document stands for a value if it has the same parts.  The members of an object may stand in
any order; of two with one name the last counts. -/
inductive Json.Value.SpelledAs : Value → Doc → Prop
  | null : SpelledAs .null .null
  | bool (b : Bool) : SpelledAs (.bool b) (.bool b)
  | integer (n : Int) : SpelledAs (.number (.integer n)) (.number (some (.integer n)))
  | string (s : String) : SpelledAs (.string s) (.text s)
  | array (parts : List (Value × Doc)) (h : ∀ p ∈ parts, SpelledAs p.1 p.2) :
    SpelledAs (.array (parts.map Prod.fst)) (.array (parts.map Prod.snd))
  | object (parts : List (String × Value × Doc)) (members : List (String × Value))
    (h : ∀ p ∈ parts, SpelledAs p.2.1 p.2.2) (hnames : Sorted.Ascending (members.map Prod.fst))
    (hlast : ∀ name,
      members.lookup name = (parts.map fun p => (p.1, p.2.1)).reverse.lookup name) :
    SpelledAs (.object members) (.object (parts.map fun p => (some p.1, p.2.2)))

theorem mapM_spelled {α : Type} {decode : Doc → Decoded α} {parts : List (α × Doc)}
    (h : ∀ p ∈ parts, decode p.2 = .ok p.1) :
    (parts.map Prod.snd).mapM decode = .ok (parts.map Prod.fst) := by
  induction parts with
  | nil => rfl
  | cons p parts ih =>
    rw [List.map_cons, List.mapM_cons, h p List.mem_cons_self,
      ih fun q hq => h q (List.mem_cons_of_mem _ hq)]
    rfl

/-- Puts entries into a map one after another. -/
def Sorted.putAll {α : Type} (entries m : List (String × α)) : List (String × α) :=
  entries.foldl (fun m p => put p.1 p.2 m) m

theorem Sorted.ascending_putAll {α : Type} (entries : List (String × α)) {m : List (String × α)}
    (h : Ascending (m.map Prod.fst)) : Ascending ((putAll entries m).map Prod.fst) := by
  induction entries generalizing m with
  | nil => exact h
  | cons p entries ih => exact ih (ascending_put h)

theorem Sorted.lookup_putAll {α : Type} (entries m : List (String × α)) (name : String) :
    (putAll entries m).lookup name = (entries.reverse.lookup name).or (m.lookup name) := by
  induction entries generalizing m with
  | nil => rfl
  | cons p entries ih =>
    obtain ⟨k, v⟩ := p
    show (putAll entries (put k v m)).lookup name = _
    rw [ih, List.reverse_cons, List.lookup_append, Option.or_assoc]
    congr 1
    by_cases hk : name = k
    · subst hk
      rw [lookup_put_self, lookup_head]
      rfl
    · rw [lookup_put_of_ne hk, lookup_cons_of_ne hk]
      rfl

theorem decodeMembers_spelled {decode : Doc → Decoded Value} {parts : List (String × Value × Doc)}
    (h : ∀ p ∈ parts, decode p.2.2 = .ok p.2.1) :
    decodeMembers decode (parts.map fun p => (some p.1, p.2.2)) =
      .ok (Sorted.putAll (parts.map fun p => (p.1, p.2.1)) []) := by
  unfold decodeMembers
  generalize ([] : List (String × Value)) = values
  induction parts generalizing values with
  | nil => rfl
  | cons p parts ih =>
    rw [List.map_cons, List.foldlM_cons]
    simp only [h p List.mem_cons_self]
    exact ih (fun q hq => h q (List.mem_cons_of_mem _ hq)) _

theorem decodeValue_of_spelled {v : Value} {d : Doc} (h : v.SpelledAs d) {depth : Nat}
    (hn : d.nesting ≤ depth) : decodeValue depth d = .ok v := by
  induction h generalizing depth with
  | null => rw [decodeValue]
  | bool b => rw [decodeValue]
  | integer n => rw [decodeValue]
  | string s => rw [Doc.text, decodeValue]
  | array parts _ ih =>
    cases depth with
    | zero => cases hn
    | succ depth =>
      have hitems : (parts.map Prod.snd).mapM (decodeValue depth) = .ok (parts.map Prod.fst) := by
        refine mapM_spelled fun p hp => ih p hp ?_
        have hlt := Doc.nesting_item (List.mem_map_of_mem (f := Prod.snd) hp)
        omega
      rw [decodeValue]
      exact congrArg (Except.map Value.array) hitems
  | object parts members _ hnames hlast ih =>
    cases depth with
    | zero => cases hn
    | succ depth =>
      have hparts : decodeMembers (decodeValue depth) (parts.map fun p => (some p.1, p.2.2)) =
          .ok (Sorted.putAll (parts.map fun p => (p.1, p.2.1)) []) := by
        refine decodeMembers_spelled fun p hp => ih p hp ?_
        have hlt := Doc.nesting_member
          (List.mem_map_of_mem (f := fun p : String × Value × Doc => (some p.1, p.2.2)) hp)
        omega
      have hmembers : Sorted.putAll (parts.map fun p => (p.1, p.2.1)) [] = members := by
        refine Sorted.eq_of_lookup (Sorted.ascending_putAll _ List.Pairwise.nil) hnames ?_
        intro name
        rw [Sorted.lookup_putAll, hlast]
        exact Option.or_none
      rw [hmembers] at hparts
      rw [decodeValue]
      exact congrArg (Except.map Value.object) hparts

/-! ## Records -/

/-- The documents that an object has under a name. -/
def under (name : String) (members : List (Option String × Doc)) : List Doc :=
  members.filterMap fun m => if m.1 = some name then some m.2 else none

theorem under_cons (name n : String) (d : Doc) (members : List (Option String × Doc)) :
    under name ((some n, d) :: members) =
      if n = name then d :: under name members else under name members := by
  unfold under
  rw [List.filterMap_cons]
  by_cases h : n = name
  · simp [h]
  · simp [h]

/-- What a record has for each of its members: in an object what stands under its name, where there
may be other names, in a list what stands at its place among `names`. -/
inductive RecordParts (names : List String) : Doc → (String → List Doc) → Prop
  | object (members : List (Option String × Doc)) (h : ∀ m ∈ members, m.1.isSome) :
    RecordParts names (.object members) fun name => under name members
  | list (items : List Doc) (h : items.length ≤ names.length) :
    RecordParts names (.array items) fun name => items[names.idxOf name]?.toList

theorem RecordParts.nesting {names : List String} {d e : Doc} {parts : String → List Doc}
    (h : RecordParts names d parts) {name : String} (he : e ∈ parts name) :
    e.nesting < d.nesting := by
  cases h with
  | object members _ =>
    obtain ⟨m, hm, heq⟩ := List.mem_filterMap.mp he
    by_cases hname : m.1 = some name
    · rw [if_pos hname] at heq
      obtain rfl := Option.some.inj heq
      exact Doc.nesting_member hm
    · rw [if_neg hname] at heq
      cases heq
  | list items _ => exact Doc.nesting_item (List.mem_of_getElem? (Option.mem_toList.mp he))

/-- A record takes one level, and what it has for its members nests within the others. -/
theorem RecordParts.exists_depth {names : List String} {d : Doc} {parts : String → List Doc}
    (h : RecordParts names d parts) {depth : Nat} (hn : d.nesting ≤ depth) :
    ∃ inner, depth = inner + 1 ∧ ∀ name, ∀ e ∈ parts name, e.nesting ≤ inner := by
  have hpos : 0 < d.nesting := by
    cases h with
    | object members _ => exact Nat.succ_pos _
    | list items _ => exact Nat.succ_pos _
  refine ⟨depth - 1, by omega, fun name e he => ?_⟩
  have hlt := h.nesting he
  omega

/-- A member is written once, or is left out if it has its default. -/
inductive Given {α : Type} (Spells : α → Doc → Prop) (default : Option α) (a : α) :
    List Doc → Prop
  | once {d : Doc} (h : Spells a d) : Given Spells default a [d]
  | omitted (h : default = some a) : Given Spells default a []

def Decodes {α : Type} (decode : Doc → Decoded α) (a : α) (d : Doc) : Prop := decode d = .ok a

theorem Given.decoded {α : Type} {Spells : α → Doc → Prop} {default : Option α} {a : α}
    {found : List Doc} {decode : Doc → Decoded α} (h : Given Spells default a found)
    (hdecode : ∀ d ∈ found, Spells a d → decode d = .ok a) :
    Given (Decodes decode) default a found := by
  cases h with
  | @once d hd => exact .once (hdecode d List.mem_cons_self hd)
  | omitted h => exact .omitted h

/-- The record `a` is built from the members that are given. -/
inductive MadeOf {α : Type} (parts : String → List Doc) :
    (ss : List Slot) → Slot.Builder α ss → α → Prop
  | nil (a : α) : MadeOf parts [] a a
  | cons {s : Slot} {ss : List Slot} {f : Slot.Builder α (s :: ss)} {a : α} {v : s.type}
    (h : Given (Decodes s.decode) s.default v (parts s.name)) (hrest : MadeOf parts ss (f v) a) :
    MadeOf parts (s :: ss) f a

/-! ### Objects -/

/-- Documents of one name fill a slot: there is none, or one for a slot that is free. -/
inductive Fills {α : Type} (decode : Doc → Decoded α) : Option α → List Doc → Option α → Prop
  | kept (slot : Option α) : Fills decode slot [] slot
  | filled {d : Doc} {a : α} (h : decode d = .ok a) : Fills decode none [d] (some a)

theorem Fills.cons {α : Type} {decode : Doc → Decoded α} {slot final : Option α} {d : Doc}
    {ds : List Doc} (h : Fills decode slot (d :: ds) final) :
    ∃ v, slot = none ∧ decode d = .ok v ∧ Fills decode (some v) ds final := by
  cases h with
  | filled hd => exact ⟨_, rfl, hd, .kept _⟩

theorem Given.exists_fills {α : Type} {decode : Doc → Decoded α} {default : Option α} {a : α}
    {found : List Doc} (h : Given (Decodes decode) default a found) :
    ∃ final, Fills decode none found final ∧ final.or default = some a := by
  cases h with
  | once hd => exact ⟨_, .filled hd, rfl⟩
  | omitted h => exact ⟨_, .kept none, h⟩

namespace Json.Slot

/-- The members ahead lead from what is known to something else. -/
inductive LeadsTo (members : List (Option String × Doc)) :
    (ss : List Slot) → Known ss → Known ss → Prop
  | nil : LeadsTo members [] () ()
  | cons {s : Slot} {ss : List Slot} {seen final : Option s.type} {others others' : Known ss}
    (h : Fills s.decode seen (under s.name members) final)
    (hrest : LeadsTo members ss others others') :
    LeadsTo members (s :: ss) (seen, others) (final, others')

namespace LeadsTo

variable {members : List (Option String × Doc)} {ss : List Slot} {known final : Known ss}

theorem eq_of_nil (h : LeadsTo [] ss known final) : known = final := by
  induction h with
  | nil => rfl
  | cons h _ ih =>
    cases h
    rw [ih]

/-- A member of a name that no slot has leads nowhere. -/
theorem of_cons {name : String} {d : Doc} (h : LeadsTo ((some name, d) :: members) ss known final)
    (hname : name ∉ ss.map (·.name)) : LeadsTo members ss known final := by
  induction h with
  | nil => exact .nil
  | cons h _ ih =>
    rw [List.map_cons, List.mem_cons, not_or] at hname
    rw [under_cons, if_neg hname.1] at h
    exact .cons h (ih hname.2)

theorem step {name : String} {d : Doc} (h : LeadsTo ((some name, d) :: members) ss known final)
    (hnames : (ss.map (·.name)).Nodup) :
    ∃ next, take ss name d known = .ok next ∧ LeadsTo members ss next final := by
  induction h with
  | nil => exact ⟨(), rfl, .nil⟩
  | @cons s ss seen final others others' h hrest ih =>
    rw [List.map_cons, List.nodup_cons] at hnames
    rw [under_cons] at h
    by_cases hname : name = s.name
    · subst hname
      rw [if_pos rfl] at h
      obtain ⟨v, rfl, hv, hfills⟩ := h.cons
      refine ⟨(some v, others), ?_, .cons hfills (hrest.of_cons hnames.1)⟩
      rw [take, if_pos rfl, once, hv]
      rfl
    · rw [if_neg hname] at h
      obtain ⟨next, htake, hnext⟩ := ih hnames.2
      refine ⟨(seen, next), ?_, .cons h hnext⟩
      rw [take, if_neg hname, htake]
      rfl

end LeadsTo

theorem takeAll_eq {members : List (Option String × Doc)} {ss : List Slot} {final : Known ss}
    (hnames : (ss.map (·.name)).Nodup) (hnamed : ∀ m ∈ members, m.1.isSome)
    (h : LeadsTo members ss (unknown ss) final) : takeAll ss members = .ok final := by
  unfold takeAll
  generalize unknown ss = known at h
  induction members generalizing known with
  | nil => exact congrArg Except.ok h.eq_of_nil
  | cons m members ih =>
    obtain ⟨name, d⟩ := m
    obtain ⟨n, rfl⟩ := Option.isSome_iff_exists.mp (hnamed _ List.mem_cons_self)
    obtain ⟨next, htake, hrest⟩ := h.step hnames
    rw [List.foldlM_cons]
    simp only [htake]
    exact ih (fun m hm => hnamed m (List.mem_cons_of_mem _ hm)) next hrest

/-- What the members of an object lead to builds the record that they make. -/
theorem exists_known {α : Type} {members : List (Option String × Doc)} {ss : List Slot}
    {f : Builder α ss} {a : α} (h : MadeOf (fun name => under name members) ss f a) :
    ∃ final, LeadsTo members ss (unknown ss) final ∧ build ss f final = .ok a := by
  induction h with
  | nil a => exact ⟨(), .nil, rfl⟩
  | cons h _ ih =>
    obtain ⟨final, hfills, hvalue⟩ := h.exists_fills
    obtain ⟨others, hleads, hbuild⟩ := ih
    refine ⟨(final, others), .cons hfills hleads, ?_⟩
    rw [build, hvalue]
    exact hbuild

/-! ### Lists -/

theorem buildList_eq {α : Type} {parts : String → List Doc} {ss : List Slot} {f : Builder α ss}
    {a : α} (h : MadeOf parts ss f a) (short : DecodeError) {items : List Doc}
    (hlength : items.length ≤ ss.length)
    (hitems : ∀ (i : Nat) (s : Slot), ss[i]? = some s → parts s.name = items[i]?.toList) :
    buildList short ss f items = .ok a := by
  induction h generalizing items with
  | nil a =>
    rw [List.eq_nil_of_length_eq_zero (Nat.le_zero.mp hlength)]
    rfl
  | @cons s ss f a v h _ ih =>
    have hrest : buildList short ss (f v) items.tail = .ok a := by
      refine ih ?_ fun i t ht => ?_
      · rw [List.length_tail]
        rw [List.length_cons] at hlength
        omega
      · rw [List.getElem?_tail]
        exact hitems (i + 1) t ht
    rw [hitems 0 s List.getElem?_cons_zero] at h
    cases items with
    | nil =>
      cases h with
      | omitted h =>
        rw [buildList, h]
        exact hrest
    | cons d ds =>
      cases h with
      | once hd =>
        rw [buildList, hd]
        exact hrest

end Json.Slot

/-! ### Both forms -/

/-- A record is decoded to what its members make of it. -/
theorem decodeContent_of_made {α : Type} {ss : List Slot} {f : Slot.Builder α ss} {d : Doc}
    {names : List String} {parts : String → List Doc} {a : α} (hparts : RecordParts names d parts)
    (hss : ss.map (·.name) = names) (hnames : names.Nodup) (h : MadeOf parts ss f a)
    (expected : String) : decodeContent expected ss f d = .ok a := by
  subst hss
  cases hparts with
  | object members hnamed =>
    obtain ⟨final, hleads, hbuild⟩ := Slot.exists_known h
    show (Slot.takeAll ss members).bind (Slot.build ss f) = _
    rw [Slot.takeAll_eq hnames hnamed hleads]
    exact hbuild
  | list items hlength =>
    rw [List.length_map] at hlength
    refine Slot.buildList_eq h _ hlength fun i s hs => ?_
    obtain ⟨hi, rfl⟩ := List.getElem?_eq_some_iff.mp hs
    have hi' : i < (ss.map (·.name)).length := by rwa [List.length_map]
    have hname : ss[i].name = (ss.map (·.name))[i] := by rw [List.getElem_map]
    rw [hname, List.Nodup.idxOf_getElem hnames]

theorem decodeRecord_of_made {α : Type} {expected : String} {ss : Nat → List Slot}
    {f : ∀ depth, Slot.Builder α (ss depth)} {d : Doc} {names : List String}
    {parts : String → List Doc} {a : α} (hparts : RecordParts names d parts)
    (hss : ∀ depth, (ss depth).map (·.name) = names) (hnames : names.Nodup) {depth : Nat}
    (hn : d.nesting ≤ depth)
    (h : ∀ inner, (∀ name, ∀ e ∈ parts name, e.nesting ≤ inner) →
      MadeOf parts (ss inner) (f inner) a) :
    decodeRecord expected ss f depth d = .ok a := by
  obtain ⟨inner, rfl, hinner⟩ := hparts.exists_depth hn
  have hcontent := decodeContent_of_made hparts (hss inner) hnames (h inner hinner) expected
  cases hparts with
  | object members _ => exact hcontent
  | list items _ => exact hcontent

/-! ## Texts, flags, choices and lists -/

def TextSpelled (s : String) (d : Doc) : Prop := d = .text s

def OptionSpelled (s : Option String) (d : Doc) : Prop := d = .ofOption s

def FlagSpelled (b : Bool) (d : Doc) : Prop := d = .bool b

/-- A choice is its name, or an object with its name and null. -/
inductive TagSpelled (tag : String) : Doc → Prop
  | name : TagSpelled tag (.text tag)
  | object : TagSpelled tag (.object [(some tag, .null)])

inductive ListSpelled {α : Type} (Spells : α → Doc → Prop) : List α → Doc → Prop
  | intro (parts : List (α × Doc)) (h : ∀ p ∈ parts, Spells p.1 p.2) :
    ListSpelled Spells (parts.map Prod.fst) (.array (parts.map Prod.snd))

theorem decodeString_of_spelled {s : String} {d : Doc} (h : TextSpelled s d) :
    decodeString d = .ok s := by
  rw [h]
  rfl

theorem decodeOption_of_spelled {s : Option String} {d : Doc} (h : OptionSpelled s d) :
    decodeOption decodeString d = .ok s := by
  rw [h]
  cases s with
  | none => rfl
  | some s => rfl

theorem decodeBool_of_spelled {b : Bool} {d : Doc} (h : FlagSpelled b d) :
    decodeBool d = .ok b := by
  rw [h]
  rfl

theorem decodeChoice_of_spelled {α : Type} {choices : List (String × α)} {tag : String} {a : α}
    (hlookup : choices.lookup tag = some a) {d : Doc} (h : TagSpelled tag d) {depth : Nat}
    (hn : d.nesting ≤ depth) : decodeChoice choices depth d = .ok a := by
  cases h with
  | name =>
    unfold decodeChoice
    simp only [Doc.text, hlookup]
  | object =>
    cases depth with
    | zero => cases hn
    | succ depth =>
      unfold decodeChoice
      simp only [enter, hlookup]
      rfl

theorem decodeList_of_spelled {α : Type} {decode : Nat → Doc → Decoded α}
    {Spells : α → Doc → Prop} {as : List α} {d : Doc} (h : ListSpelled Spells as d)
    {depth : Nat} (hn : d.nesting ≤ depth)
    (hdecode : ∀ a e depth, Spells a e → e.nesting ≤ depth → decode depth e = .ok a) :
    decodeList decode depth d = .ok as := by
  cases h with
  | intro parts h =>
    cases depth with
    | zero => cases hn
    | succ depth =>
      refine mapM_spelled fun p hp => hdecode p.1 p.2 depth (h p hp) ?_
      have hlt := Doc.nesting_item (List.mem_map_of_mem (f := Prod.snd) hp)
      omega

theorem decodeTexts_of_spelled {as : List String} {d : Doc} (h : ListSpelled TextSpelled as d)
    {depth : Nat} (hn : d.nesting ≤ depth) :
    decodeList (fun _ => decodeString) depth d = .ok as :=
  decodeList_of_spelled h hn fun _ _ _ h _ => decodeString_of_spelled h

end Facsimile
