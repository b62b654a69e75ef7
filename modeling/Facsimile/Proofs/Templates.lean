import Facsimile.Proofs.AcceptedSettings
import Facsimile.Proofs.ReservedNames
import Mathlib.Data.List.Infix
import Mathlib.Data.Set.Function

/-!
# Names in escape templates

A template is cut at its placeholders, from left to right, and a name is set between the parts.  The
parts do not depend on the name, so that two results of one length have the name at the same place,
and results for names of different lengths differ in length as soon as there is a placeholder.
`reserved_words_kept_apart` says that a template with a placeholder keeps all names apart, and
therefore the escape of accepted settings all reserved words.
-/

namespace Facsimile
namespace Naming

/-- The texts around the placeholders of a template. -/
def gaps : List Char → List (List Char)
  | '{' :: 'f' :: 'i' :: 'e' :: 'l' :: 'd' :: '}' :: rest => [] :: gaps rest
  | c :: rest => (gaps rest).modifyHead (c :: ·)
  | [] => [[]]

/-- The parts are what a template has around its placeholders, and no placeholder is left in one. -/
structure IsCutAt (template : List Char) (parts : List (List Char)) : Prop where
  joined : placeholder.toList.intercalate parts = template
  free : ∀ part ∈ parts, ¬placeholder.toList <:+: part

/-! ## Parts of a template -/

theorem gaps_ne_nil (template : List Char) : gaps template ≠ [] := by
  fun_induction gaps template with
  | case1 rest ih => exact List.cons_ne_nil _ _
  | case2 c rest hno ih =>
    intro hnil
    exact ih (List.modifyHead_eq_nil_iff.mp hnil)
  | case3 => exact List.cons_ne_nil _ _

theorem intercalate_nil_cons (sep : List Char) {parts : List (List Char)} (h : parts ≠ []) :
    sep.intercalate ([] :: parts) = sep ++ sep.intercalate parts := by
  obtain ⟨part, parts, rfl⟩ := List.exists_cons_of_ne_nil h
  rw [List.intercalate_cons_cons, List.nil_append]

theorem intercalate_modifyHead (sep : List Char) (c : Char) {parts : List (List Char)}
    (h : parts ≠ []) :
    sep.intercalate (parts.modifyHead (c :: ·)) = c :: sep.intercalate parts := by
  obtain ⟨part, parts, rfl⟩ := List.exists_cons_of_ne_nil h
  rw [List.modifyHead_cons]
  cases parts with
  | nil => rw [List.intercalate_singleton, List.intercalate_singleton]
  | cons next parts =>
    rw [List.intercalate_cons_cons, List.intercalate_cons_cons]
    rfl

theorem substitute_cons (name : List Char) {c : Char} {rest : List Char}
    (hno : ∀ more, c = '{' → rest = 'f' :: 'i' :: 'e' :: 'l' :: 'd' :: '}' :: more → False) :
    substitute name (c :: rest) = c :: substitute name rest := by
  rw [substitute]
  exact hno

theorem intercalate_gaps (name template : List Char) :
    name.intercalate (gaps template) = substitute name template := by
  fun_induction gaps template with
  | case1 rest ih =>
    rw [intercalate_nil_cons name (gaps_ne_nil rest), ih]
    rfl
  | case2 c rest hno ih =>
    rw [intercalate_modifyHead name c (gaps_ne_nil rest), ih, substitute_cons name hno]
  | case3 => rfl

/-- A placeholder for each placeholder is the template. -/
theorem substitute_placeholder (template : List Char) :
    substitute placeholder.toList template = template := by
  fun_induction gaps template with
  | case1 rest ih =>
    show placeholder.toList ++ substitute placeholder.toList rest = _
    rw [ih]
    rfl
  | case2 c rest hno ih =>
    rw [substitute_cons placeholder.toList hno, ih]
  | case3 => rfl

theorem prefix_of_gaps_eq {template part : List Char} {parts : List (List Char)}
    (h : gaps template = part :: parts) : part <+: template := by
  fun_induction gaps template generalizing part parts with
  | case1 rest ih =>
    obtain ⟨rfl, -⟩ := List.cons.inj h
    exact List.nil_prefix
  | case2 c rest hno ih =>
    obtain ⟨first, others, hgaps⟩ := List.exists_cons_of_ne_nil (gaps_ne_nil rest)
    rw [hgaps, List.modifyHead_cons] at h
    obtain ⟨rfl, -⟩ := List.cons.inj h
    exact (List.prefix_cons_inj c).mpr (ih hgaps)
  | case3 =>
    obtain ⟨rfl, -⟩ := List.cons.inj h
    exact List.nil_prefix

theorem not_placeholder_infix_nil : ¬placeholder.toList <:+: [] := by
  rw [List.infix_nil]
  decide

theorem free_gaps (template : List Char) :
    ∀ part ∈ gaps template, ¬placeholder.toList <:+: part := by
  fun_induction gaps template with
  | case1 rest ih => exact List.forall_mem_cons.mpr ⟨not_placeholder_infix_nil, ih⟩
  | case2 c rest hno ih =>
    obtain ⟨first, others, hgaps⟩ := List.exists_cons_of_ne_nil (gaps_ne_nil rest)
    rw [hgaps] at ih ⊢
    obtain ⟨hfirst, hothers⟩ := List.forall_mem_cons.mp ih
    rw [List.modifyHead_cons]
    refine List.forall_mem_cons.mpr ⟨fun hwithin => hfirst ?_, hothers⟩
    -- The first part is a start of the template, which does not start with a placeholder.
    obtain ⟨behind, hrest⟩ := prefix_of_gaps_eq hgaps
    have hpart : ∀ more, c = '{' → first = 'f' :: 'i' :: 'e' :: 'l' :: 'd' :: '}' :: more →
        False := by
      intro more hc hmore
      refine hno (more ++ behind) hc ?_
      rw [← hrest, hmore]
      rfl
    exact holdsPlaceholder_iff.mp (holdsPlaceholder_tail hpart (holdsPlaceholder_iff.mpr hwithin))
  | case3 => exact List.forall_mem_singleton.mpr not_placeholder_infix_nil

theorem isCutAt_gaps (template : List Char) : IsCutAt template (gaps template) := by
  constructor
  case joined => rw [intercalate_gaps, substitute_placeholder]
  case free => exact free_gaps template

/-- A placeholder has a part on either side. -/
theorem exists_gaps_eq {template : List Char} (h : placeholder.toList <:+: template) :
    ∃ first next rest, gaps template = first :: next :: rest := by
  obtain ⟨first, rest, hgaps⟩ := List.exists_cons_of_ne_nil (gaps_ne_nil template)
  cases rest with
  | nil =>
    have hcut := isCutAt_gaps template
    rw [hgaps] at hcut
    have hwhole : first = template := by rw [← hcut.joined, List.intercalate_singleton]
    rw [← hwhole] at h
    exact absurd h (hcut.free first List.mem_cons_self)
  | cons next rest => exact ⟨first, next, rest, hgaps⟩

/-! ## Names between the parts -/

theorem length_intercalate (sep first : List Char) (rest : List (List Char)) :
    (sep.intercalate (first :: rest)).length =
      (first :: rest).flatten.length + rest.length * sep.length := by
  induction rest generalizing first with
  | nil => simp
  | cons next rest ih =>
    have hflat : (first :: next :: rest).flatten.length =
        first.length + (next :: rest).flatten.length := by
      rw [List.flatten_cons, List.length_append]
    rw [List.intercalate_cons_cons, List.length_append, List.length_append, ih, hflat,
      List.length_cons, Nat.succ_mul]
    omega

/-- A text that is set between parts can be told from the result: from its length how long it is,
and from what stands behind the first part the rest. -/
theorem intercalate_inj {first next : List Char} {rest : List (List Char)} {a b : List Char}
    (h : a.intercalate (first :: next :: rest) = b.intercalate (first :: next :: rest)) :
    a = b := by
  have hlength : a.length = b.length := by
    have hlengths := congrArg List.length h
    rw [length_intercalate, length_intercalate] at hlengths
    exact Nat.eq_of_mul_eq_mul_left (Nat.succ_pos rest.length) (Nat.add_left_cancel hlengths)
  rw [List.intercalate_cons_cons, List.intercalate_cons_cons, List.append_assoc,
    List.append_assoc] at h
  exact List.append_inj_left (List.append_cancel_left h) hlength

theorem toList_fillTemplate (template name : String) :
    (fillTemplate template name).toList = name.toList.intercalate (gaps template.toList) := by
  rw [fillTemplate, String.toList_ofList, intercalate_gaps]

/-- Without a placeholder all names give the template, and with one no two names give the same. -/
theorem fillTemplate_injective_iff {template : String} :
    Function.Injective (fillTemplate template) ↔ placeholder.toList <:+: template.toList := by
  constructor
  · intro hinj
    by_contra hno
    have hmissing : holdsPlaceholder template.toList = false :=
      Bool.eq_false_iff.mpr (mt holdsPlaceholder_iff.mp hno)
    have hsame : fillTemplate template "as" = fillTemplate template "in" := by
      unfold fillTemplate
      rw [substitute_of_no_placeholder _ hmissing, substitute_of_no_placeholder _ hmissing]
    exact absurd (hinj hsame) (by decide)
  · intro hheld a b hab
    obtain ⟨first, next, rest, hgaps⟩ := exists_gaps_eq hheld
    have hlists := congrArg String.toList hab
    rw [toList_fillTemplate, toList_fillTemplate, hgaps] at hlists
    exact String.toList_inj.mp (intercalate_inj hlists)

theorem escapeReserved_injOn {template : String} (h : placeholder.toList <:+: template.toList) :
    Set.InjOn (escapeReserved template) {name | isReserved name = true} := by
  intro a ha b hb hab
  have hfilled : ∀ {name}, isReserved name = true →
      escapeReserved template name = fillTemplate template name := fun hname => if_pos hname
  rw [hfilled ha, hfilled hb] at hab
  exact fillTemplate_injective_iff.mpr h hab

end Naming

namespace Generator

open Naming

/-- A name is set between the parts of a template.  The template keeps all names apart exactly if it
holds a placeholder, and the escape of accepted settings keeps all reserved words apart. -/
theorem reserved_words_kept_apart :
    (∀ template : String, ∃ parts, IsCutAt template.toList parts ∧
      ∀ name, (fillTemplate template name).toList = name.toList.intercalate parts) ∧
    (∀ template, Function.Injective (fillTemplate template) ↔
      placeholder.toList <:+: template.toList) ∧
    ∀ c g, new c = .ok g →
      Set.InjOn (escapeReserved c.escapeTemplate) {name | isReserved name = true} := by
  refine ⟨fun template => ?_, fun template => fillTemplate_injective_iff, fun c g hg => ?_⟩
  · exact ⟨gaps template.toList, isCutAt_gaps template.toList, toList_fillTemplate template⟩
  · exact escapeReserved_injOn (new_eq_ok_iff.mp hg).1

/-- Two placeholders side by side, with a piece of one in front of them and another behind. -/
def tangledConfig : Config :=
  { Config.default with escapeTemplate := "\x7bfie\x7bfield\x7d\x7bfield\x7d\x7bfield" }

def tangled : Generator := { standard with config := tangledConfig }

theorem tangled_kept_apart :
    new tangledConfig = .ok tangled ∧
      isReserved "as" = true ∧ isReserved "async" = true ∧
      escapeReserved tangledConfig.escapeTemplate "as" = "\x7bfieasas\x7bfield" ∧
      escapeReserved tangledConfig.escapeTemplate "as" ≠
        escapeReserved tangledConfig.escapeTemplate "async" := by
  have hnew : new tangledConfig = .ok tangled := rfl
  have has : isReserved "as" = true := by decide
  have hasync : isReserved "async" = true := by decide
  refine ⟨hnew, has, hasync, by decide, fun heq => ?_⟩
  have hsame := reserved_words_kept_apart.2.2 tangledConfig tangled hnew has hasync heq
  exact absurd hsame (by decide)

end Generator
end Facsimile
