import RedisClient.Command.Param
import RedisClient.Proofs.Dict.Collecting
import RedisClient.Proofs.Reply.Forms

/-!
# Replies made of texts

A text that was sent in a reply is read as that text (`Reply.toText_ofText`), and so are lists of
texts of which some are missing (`Reply.toList_ofMaybe`). Texts that alternate as keys and values
are read as the dictionary that they were taken from, whatever the order of its entries
(`Reply.toTextMap_pairWords`).
-/

namespace RedisClient

namespace Reply

def ofMaybe (value : Option String) : Reply := value.elim nil ofText

theorem toText_ofText (s : String) : (ofText s).toText = .ok s := by
  simp only [ofText, toText, textOr, decodeText, String.fromUTF8?, dif_pos s.isValidUTF8]
  rfl

theorem toOption_ofMaybe (value : Option String) : (ofMaybe value).toOption toText = .ok value := by
  cases value with
  | none => rfl
  | some s =>
    show (toText (ofText s)).map some = .ok (some s)
    rw [toText_ofText]
    rfl

/-! ## No errors -/

theorem errorsIn_map {α : Type} {g : α → Reply} (clean : ∀ a, (g a).errors = []) (l : List α) :
    errorsIn (l.map g) = [] := by
  induction l with
  | nil => rfl
  | cons a l ih => rw [List.map_cons, errorsIn, clean, ih, List.nil_append]

theorem errors_ofText (s : String) : (ofText s).errors = [] := rfl

theorem errors_ofMaybe (value : Option String) : (ofMaybe value).errors = [] := by
  cases value <;> rfl

/-! ## Lists and dictionaries -/

theorem toList_ofMaybe (values : List (Option String)) :
    (array (values.map ofMaybe)).toList (toOption toText) = .ok values :=
  Results.mapM_map toOption_ofMaybe values

theorem pairs?_pairWords (entries : List (String × String)) :
    pairs? (pairWords entries) = some entries := pairs?_alternate entries

theorem pairs?_map {α β : Type} (g : α → β) :
    ∀ l : List α, pairs? (l.map g) = (pairs? l).map (List.map (Prod.map g g))
  | [] => rfl
  | [_] => rfl
  | a :: b :: rest => by
    rw [List.map_cons, List.map_cons, pairs?, pairs?, pairs?_map g rest, Option.map_map,
      Option.map_map]
    rfl

theorem toEntry_ofText (entry : String × String) :
    toEntry (Prod.map ofText ofText entry) = .ok entry := by
  simp only [toEntry, Prod.map, toText_ofText]

/-- The entries of a dictionary as keys and values in turn are read as the dictionary. -/
theorem toTextMap_pairWords {d : Dict String} {order : List (String × String)}
    (same : order.Perm d.entries) :
    (array ((pairWords order).map ofText)).toTextMap = .ok d := by
  simp only [toTextMap, pairs?_map, pairs?_pairWords, Option.map_some]
  rw [Results.mapM_map toEntry_ofText, Except.map, Dict.ofList_perm same]

end Reply

end RedisClient
