import DutyRoster.Json.Value
import DutyRoster.Proofs.Json.Token

/-!
# JSON values are read as they are written

The compact text of a value is read as the same value (`Value.ofText?_compact`). There are two
halves. In the words of a value no two names or numbers stand side by side, so they are told apart
again (`Value.apart_tokens`). And the builder, when it is given the words of a value where a value
has to begin, ends up as if it had been handed the value (`Value.build_tokens`), whatever is open
around it. Both go by the recursion that lists the words: over values, items and members at once.
-/

set_option autoImplicit false

namespace DutyRoster.Json

/-- No two words without quotes stand side by side. -/
def Apart (tokens : List Token) : Prop :=
  tokens.IsChain fun a b => a.isWord = true → b.isWord = false

/-- A mark may stand in front of any tokens. -/
theorem Apart.cons {mark : Token} {tokens : List Token} (not_word : mark.isWord = false)
    (h : Apart tokens) : Apart (mark :: tokens) := by
  refine List.isChain_cons.mpr ⟨fun _ _ word => ?_, h⟩
  rw [not_word] at word
  cases word

/-- A mark keeps the tokens before it apart from those after it. -/
theorem Apart.append {before after : List Token} {mark : Token} (not_word : mark.isWord = false)
    (h : Apart before) (k : Apart (mark :: after)) : Apart (before ++ mark :: after) := by
  refine List.isChain_append.mpr ⟨h, k, fun _ _ next mem _ => ?_⟩
  obtain rfl : mark = next := Option.some.inj mem
  exact not_word

namespace Value

/-- Every word of a value can be read back. -/
def Legible (value : Value) : Prop :=
  ∀ token ∈ value.tokens, token.Legible

mutual
/-- No two words stand side by side in what is written for a value. -/
theorem apart_tokens (value : Value) : Apart value.tokens := by
  cases value with
  | array items => exact (apart_itemTokens items).cons rfl
  | object members => exact (apart_memberTokens members).cons rfl
  | _ => exact .singleton _

/-- No two words stand side by side in what is written for the items of an array. -/
theorem apart_itemTokens (items : List Value) : Apart (itemTokens items) := by
  match items with
  | [] => exact .singleton _
  | [item] => exact (apart_tokens item).append rfl (.singleton _)
  | item :: next :: rest =>
    exact (apart_tokens item).append rfl ((apart_itemTokens (next :: rest)).cons rfl)

/-- No two words stand side by side in what is written for the members of an object. -/
theorem apart_memberTokens (members : List (Option String × Value)) :
    Apart (memberTokens members) := by
  match members with
  | [] => exact .singleton _
  | [(name, value)] =>
    exact (((apart_tokens value).append rfl (.singleton _)).cons rfl).cons rfl
  | (name, value) :: next :: rest =>
    exact (((apart_tokens value).append rfl ((apart_memberTokens (next :: rest)).cons rfl)).cons
      rfl).cons rfl
end

/-- Where an item may begin, a value is read as where it has to. -/
theorem build_itemOrEnd (value : Value) (stack : List Container) (more : List Token) :
    (value.tokens ++ more).foldlM Builder.step ⟨stack, .itemOrEnd⟩ =
      (value.tokens ++ more).foldlM Builder.step ⟨stack, .value⟩ := by
  cases value <;> rfl

/-- Where a member may begin, a member is read as where it has to. -/
theorem build_nameOrEnd (member : Option String × Value) (rest : List (Option String × Value))
    (stack : List Container) :
    (memberTokens (member :: rest)).foldlM Builder.step ⟨stack, .nameOrEnd⟩ =
      (memberTokens (member :: rest)).foldlM Builder.step ⟨stack, .name⟩ := by
  cases rest <;> rfl

/-- What is written for items begins with what is written for the first of them. -/
theorem exists_itemTokens_eq (item : Value) (rest : List Value) :
    ∃ more, itemTokens (item :: rest) = item.tokens ++ more := by
  cases rest with
  | nil => exact ⟨_, rfl⟩
  | cons next rest => exact ⟨_, rfl⟩

mutual
/-- The words of a value are built into the value, and it is put where it belongs. -/
theorem build_tokens (value : Value) (stack : List Container) :
    value.tokens.foldlM Builder.step ⟨stack, .value⟩ = some (Builder.receive stack value) := by
  match value with
  | .array [] => rfl
  | .array (item :: rest) =>
    obtain ⟨more, eq⟩ := exists_itemTokens_eq item rest
    have built := build_items (item :: rest) [] stack nofun
    rw [eq, ← build_itemOrEnd, ← eq] at built
    exact built
  | .object [] => rfl
  | .object (member :: rest) =>
    have built := build_members (member :: rest) [] none stack nofun
    rw [← build_nameOrEnd] at built
    exact built
  | .null | .bool _ | .integer _ | .decimal _ | .string _ => rfl

/-- The words of the last items of an array and its end complete the array. -/
theorem build_items (items done : List Value) (stack : List Container) (ne : items ≠ []) :
    (itemTokens items).foldlM Builder.step ⟨.array done :: stack, .value⟩ =
      some (Builder.receive stack (.array (done.reverse ++ items))) := by
  match items with
  | [] => exact absurd rfl ne
  | [item] =>
    have first := build_tokens item (.array done :: stack)
    rw [itemTokens, List.foldlM_append, first]
    simp [Builder.receive, Builder.step, Builder.close]
  | item :: next :: rest =>
    have first := build_tokens item (.array done :: stack)
    have others := build_items (next :: rest) (item :: done) stack nofun
    rw [List.reverse_cons, List.append_assoc] at others
    change (item.tokens ++ Token.comma :: itemTokens (next :: rest)).foldlM _ _ = _
    rw [List.foldlM_append, first]
    exact others

/-- The words of the last members of an object and its end complete the object. -/
theorem build_members (members done : List (Option String × Value)) (before : Option String)
    (stack : List Container) (ne : members ≠ []) :
    (memberTokens members).foldlM Builder.step ⟨.object done before :: stack, .name⟩ =
      some (Builder.receive stack (.object (done.reverse ++ members))) := by
  match members with
  | [] => exact absurd rfl ne
  | [(name, value)] =>
    have first := build_tokens value (.object done name :: stack)
    change (value.tokens ++ [Token.closeObject]).foldlM Builder.step
      ⟨.object done name :: stack, .value⟩ = _
    rw [List.foldlM_append, first]
    simp [Builder.receive, Builder.step, Builder.close]
  | (name, value) :: next :: rest =>
    have first := build_tokens value (.object done name :: stack)
    have others := build_members (next :: rest) ((name, value) :: done) name stack nofun
    rw [List.reverse_cons, List.append_assoc] at others
    change (value.tokens ++ Token.comma :: memberTokens (next :: rest)).foldlM Builder.step
      ⟨.object done name :: stack, .value⟩ = _
    rw [List.foldlM_append, first]
    exact others
end

/-- What is written for an integer can be read back. -/
theorem legible_integer (n : Int) : (Value.integer n).Legible := by
  simp [Legible, tokens, Token.Legible]

/-- What is written for a text can be read back. -/
theorem legible_str (content : String) : (Value.str content).Legible := by
  simp [Legible, str, tokens, Token.Legible]

/-- What is written for an object can be read back if all of its members can. -/
theorem legible_object {members : List (Option String × Value)}
    (all : ∀ member ∈ members, member.2.Legible) : (Value.object members).Legible := by
  suffices inner : ∀ token ∈ memberTokens members, token.Legible from
    List.forall_mem_cons.mpr ⟨trivial, inner⟩
  induction members with
  | nil => exact List.forall_mem_cons.mpr ⟨trivial, nofun⟩
  | cons member rest ih =>
    obtain ⟨own, others⟩ := List.forall_mem_cons.mp all
    cases rest with
    | nil =>
      simp only [memberTokens, List.forall_mem_cons, List.forall_mem_append]
      exact ⟨trivial, trivial, own, trivial, nofun⟩
    | cons next rest =>
      simp only [memberTokens, List.forall_mem_cons, List.forall_mem_append]
      exact ⟨trivial, trivial, own, trivial, ih others⟩

/-- What is written for a record can be read back if all of its members can. -/
theorem legible_record {members : List (String × Value)}
    (all : ∀ member ∈ members, member.2.Legible) : (Value.record members).Legible := by
  apply legible_object
  intro member mem
  obtain ⟨own, on_list, rfl⟩ := List.mem_map.mp mem
  exact all own on_list

/-- A value is built again from its words. -/
theorem ofTokens?_tokens (value : Value) : ofTokens? value.tokens = some value := by
  rw [ofTokens?, Builder.start, build_tokens]
  rfl

/-- Reading the compact text of a value gives the value back. -/
theorem ofText?_compact {value : Value} (legible : value.Legible) :
    ofText? (String.ofList value.compact) = some value := by
  rw [ofText?, read?, String.toList_ofList, compact, tokenize_texts legible value.apart_tokens,
    Option.bind_some, ofTokens?_tokens]

end Value

end DutyRoster.Json
