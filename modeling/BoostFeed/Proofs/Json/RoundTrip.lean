import BoostFeed.Proofs.Json.Scanning
import BoostFeed.Json.Tree
import Mathlib.Data.List.Chain

/-! Every JSON text is read as the tree that was printed: its tokens are told apart, since no two numerals stand side
by side, and the reader puts them together again. -/

namespace BoostFeed.Json

namespace Token

/-- Only a separator may stand right behind a numeral. -/
def MayFollow (a b : Token) : Prop := ∀ n, a = .number n → b.separates = true

theorem mayFollow_of_separates {a b : Token} (h : b.separates = true) : MayFollow a b := fun _ _ => h

theorem exists_behind_tokens {s : Scanner} {ts tokens : List Token} (hs : s.Behind ts)
    (hchain : (ts.head?.toList ++ tokens).IsChain MayFollow) :
    ∃ s', (tokens.flatMap print).foldlM Scanner.step s = some s' ∧ s'.Behind (tokens.reverse ++ ts) := by
  induction tokens generalizing s ts with
  | nil => exact ⟨s, rfl, hs⟩
  | cons token tokens ih =>
    have hfirst : ∃ s', token.print.foldlM Scanner.step s = some s' ∧ s'.Behind (token :: ts) := by
      cases hs with
      | between => exact Scanner.exists_behind_print token
      | number d ts hd =>
        have hseparates : token.separates = true := (List.isChain_cons_cons.mp hchain).1 _ rfl
        exact ⟨_, Scanner.Behind.separator (.number d ts hd) hseparates, .between _⟩
    obtain ⟨s', hstep, hbehind⟩ := hfirst
    have hrest : (token :: tokens).IsChain MayFollow := (List.isChain_append.mp hchain).2.1
    obtain ⟨s'', hsteps, hend⟩ := ih hbehind hrest
    refine ⟨s'', ?_, by simpa using hend⟩
    rw [List.flatMap_cons, List.foldlM_append, hstep]
    exact hsteps

theorem scan_print {tokens : List Token} (h : tokens.IsChain MayFollow) :
    scan (tokens.flatMap print) = some tokens := by
  obtain ⟨s, hsteps, hend⟩ := exists_behind_tokens (.between []) h
  have hstart : (tokens.flatMap print).foldlM Scanner.step Scanner.start = some s := hsteps
  rw [scan, hstart, Option.bind_some, hend.finish]
  simp

end Token

namespace Tree

theorem separates_of_head_itemTokens (ts : List Tree) : ∀ b ∈ (itemTokens ts).head?, b.separates = true := by
  cases ts <;> simp [itemTokens, Token.separates]

theorem separates_of_head_memberTokens (ms : List (Option String × Tree)) :
    ∀ b ∈ (memberTokens ms).head?, b.separates = true := by
  rcases ms with _ | ⟨⟨k, t⟩, ms⟩ <;> simp [memberTokens, Token.separates]

theorem isChain_append_of_separates {as bs : List Token} (ha : as.IsChain Token.MayFollow)
    (hb : bs.IsChain Token.MayFollow) (h : ∀ b ∈ bs.head?, b.separates = true) : (as ++ bs).IsChain Token.MayFollow :=
  List.isChain_append.mpr ⟨ha, hb, fun _ _ b hbs => Token.mayFollow_of_separates (h b hbs)⟩

theorem isChain_cons {a : Token} {as : List Token} (ha : ∀ n, a ≠ .number n) (has : as.IsChain Token.MayFollow) :
    (a :: as).IsChain Token.MayFollow :=
  List.isChain_cons.mpr ⟨fun _ _ n hn => absurd hn (ha n), has⟩

mutual

theorem isChain_tokens (t : Tree) : t.tokens.IsChain Token.MayFollow :=
  match t with
  | .null | .bool _ | .number _ | .string _ => .singleton _
  | .array [] | .object [] => isChain_cons nofun (.singleton _)
  | .array (t :: ts) =>
    isChain_cons nofun (isChain_append_of_separates (isChain_tokens t) (isChain_itemTokens ts)
      (separates_of_head_itemTokens ts))
  | .object ((_, t) :: ms) =>
    isChain_cons nofun (isChain_cons nofun (isChain_cons nofun (isChain_append_of_separates (isChain_tokens t)
      (isChain_memberTokens ms) (separates_of_head_memberTokens ms))))

theorem isChain_itemTokens (ts : List Tree) : (itemTokens ts).IsChain Token.MayFollow :=
  match ts with
  | [] => .singleton _
  | t :: ts =>
    isChain_cons nofun (isChain_append_of_separates (isChain_tokens t) (isChain_itemTokens ts)
      (separates_of_head_itemTokens ts))

theorem isChain_memberTokens (ms : List (Option String × Tree)) : (memberTokens ms).IsChain Token.MayFollow :=
  match ms with
  | [] => .singleton _
  | (_, t) :: ms =>
    isChain_cons nofun (isChain_cons nofun (isChain_cons nofun (isChain_append_of_separates (isChain_tokens t)
      (isChain_memberTokens ms) (separates_of_head_memberTokens ms))))

end

/-- The first item begins as any other value does. -/
theorem foldlM_step_firstItem (t : Tree) (stack : List Frame) :
    t.tokens.foldlM Reader.step ⟨.firstItem, stack⟩ = t.tokens.foldlM Reader.step ⟨.value, .item [] :: stack⟩ :=
  match t with
  | .null | .bool _ | .number _ | .string _ | .array [] | .array (_ :: _) | .object [] | .object ((_, _) :: _) => rfl

mutual

theorem foldlM_step_tokens (t : Tree) (stack : List Frame) :
    t.tokens.foldlM Reader.step ⟨.value, stack⟩ = some ⟨.after t, stack⟩ := by
  match t with
  | .null | .bool _ | .number _ | .string _ | .array [] | .object [] => rfl
  | .array (t :: ts) =>
    have hopen : Reader.step ⟨.value, stack⟩ .openArray = some ⟨.firstItem, stack⟩ := rfl
    rw [tokens, List.cons_append, List.foldlM_cons, hopen, Option.bind_eq_bind, Option.bind_some, List.foldlM_append,
      foldlM_step_firstItem, foldlM_step_tokens t]
    exact foldlM_step_itemTokens ts t [] stack
  | .object ((k, t) :: ms) =>
    have hopen : [.openObject, .string k, .colon].foldlM Reader.step ⟨.value, stack⟩ =
        some ⟨.value, .member [] k :: stack⟩ := rfl
    have hsplit : (Tree.object ((k, t) :: ms)).tokens =
        [.openObject, .string k, .colon] ++ (t.tokens ++ memberTokens ms) := by
      simp [tokens]
    rw [hsplit, List.foldlM_append, hopen, Option.bind_eq_bind, Option.bind_some, List.foldlM_append,
      foldlM_step_tokens t]
    exact foldlM_step_memberTokens ms t k [] stack

theorem foldlM_step_itemTokens (ts : List Tree) (t : Tree) (done : List Tree) (stack : List Frame) :
    (itemTokens ts).foldlM Reader.step ⟨.after t, .item done :: stack⟩ =
      some ⟨.after (.array (done.reverse ++ t :: ts)), stack⟩ := by
  match ts with
  | [] => simp [itemTokens, Reader.step, Reader.after]
  | u :: ts =>
    have hcomma : Reader.step ⟨.after t, .item done :: stack⟩ .comma = some ⟨.value, .item (t :: done) :: stack⟩ := rfl
    rw [itemTokens, List.cons_append, List.foldlM_cons, hcomma, Option.bind_eq_bind, Option.bind_some, List.foldlM_append,
      foldlM_step_tokens u]
    simpa using foldlM_step_itemTokens ts u (t :: done) stack

theorem foldlM_step_memberTokens (ms : List (Option String × Tree)) (t : Tree) (k : Option String)
    (done : List (Option String × Tree)) (stack : List Frame) :
    (memberTokens ms).foldlM Reader.step ⟨.after t, .member done k :: stack⟩ =
      some ⟨.after (.object (done.reverse ++ (k, t) :: ms)), stack⟩ := by
  match ms with
  | [] => simp [memberTokens, Reader.step, Reader.after]
  | (j, u) :: ms =>
    have hnext : [.comma, .string j, .colon].foldlM Reader.step ⟨.after t, .member done k :: stack⟩ =
        some ⟨.value, .member ((k, t) :: done) j :: stack⟩ := rfl
    have hsplit : memberTokens ((j, u) :: ms) = [.comma, .string j, .colon] ++ (u.tokens ++ memberTokens ms) := by
      simp [memberTokens]
    rw [hsplit, List.foldlM_append, hnext, Option.bind_eq_bind, Option.bind_some, List.foldlM_append,
      foldlM_step_tokens u]
    simpa using foldlM_step_memberTokens ms u j ((k, t) :: done) stack

end

theorem ofTokens?_tokens (t : Tree) : ofTokens? t.tokens = some t := by
  rw [ofTokens?, Reader.start, foldlM_step_tokens]
  rfl

/-- Printing loses nothing: a string in which a surrogate stands alone is read as such a string too. -/
theorem read?_print (t : Tree) : read? t.print = some t := by
  rw [read?, print, String.toList_ofList, Token.scan_print (isChain_tokens t), Option.bind_some, ofTokens?_tokens]

end Tree

end BoostFeed.Json
