import QueryTree.Description.Read
import QueryTree.Proofs.DecodedLiterals
import QueryTree.Proofs.JsonText
import QueryTree.Proofs.TomlText

/-!
Numbers on their way from a text into the arguments. An integer that the format has a form for is
bound as exactly that integer. What cannot be kept is settled when the text is read: TOML refuses an
integer that is too large, while JSON makes a float of it, and of a zero with a sign; and a float
that is not finite becomes null, for which TOML has no word of its own.
-/

namespace QueryTree

/-- The text says these data, by the grammar of its format. -/
def Format.Spells (format : Format) (text : String) (data : Data) : Prop :=
  match format with
  | .json => ∃ json, Json.Spells text json ∧ data = .ofJson json
  | .toml => Toml.Spells text data

theorem Format.spells_of_read {format : Format} {text : String} {data : Data}
    (h : format.read text = some data) : format.Spells text data := by
  cases format with
  | json =>
    obtain ⟨json, hjson, rfl⟩ := Option.map_eq_some_iff.mp h
    exact ⟨json, Json.spells_of_read hjson, rfl⟩
  | toml => exact Toml.spells_of_read h

namespace Description

theorem spells_of_read {format : Format} {text : String} {description : Description}
    (h : read format text = .ok description) :
    ∃ data, format.Spells text data ∧ data.asDescription? format = some description := by
  unfold read at h
  split at h
  next => cases h
  next data hdata =>
    split at h
    next => cases h
    next hdescription =>
      cases h
      exact ⟨data, Format.spells_of_read hdata, hdescription⟩

end Description

end QueryTree
