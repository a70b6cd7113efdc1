import SchemaEvolution.Loading
import SchemaEvolution.Proofs.Document.RoundTrip
import SchemaEvolution.Proofs.Toml.Lines

/-!
# Settings files overlay the defaults

A settings file gives any of the settings under their keys, in any order, and what it leaves out is as
by default (`Settings.decode_overlay`). Reading starts from the defaults and each entry replaces one
setting (`Settings.put_member`), so by induction over the entries exactly the settings under the keys
that are given are replaced (`Settings.foldlM_entries`).
-/

namespace SchemaEvolution

theorem OutputFormat.decode_name (origin : Origin) (f : OutputFormat) :
    decode origin (.text f.name) = .ok f := by
  unfold decode ofName
  cases f <;> rfl

namespace Settings

variable {origin : Origin}

/-- The settings under some keys from `s` and all others from `base`. -/
def overlay (base s : Settings) (keys : List Key) : Settings where
  format := if .format ∈ keys then s.format else base.format
  terminator := if .terminator ∈ keys then s.terminator else base.terminator
  directory := if .directory ∈ keys then s.directory else base.directory
  allowPartialRevert :=
    if .allowPartialRevert ∈ keys then s.allowPartialRevert else base.allowPartialRevert

/-- The entries that documents have for the settings under some keys. -/
def entries (s : Settings) (keys : List Key) : List (String × Node) :=
  keys.map fun k => (shape.name k, s.member k)

theorem encode_eq (s : Settings) : s.encode = .table (s.entries shape.keys) := rfl

/-! ## Overlays -/

theorem overlay_cons (base s : Settings) (k : Key) (keys : List Key) :
    base.overlay s (k :: keys) = (base.overlay s [k]).overlay s keys := by
  unfold overlay
  cases k <;> simp

/-- Nothing of the base is left if all keys are given. -/
theorem overlay_keys (base s : Settings) : base.overlay s shape.keys = s := rfl

/-! ## Reading -/

theorem key?_name (k : Key) : shape.key? (shape.name k) = some k := by
  cases k <;> rfl

/-- A setting that is read replaces this one and no other. -/
theorem put_member (base s : Settings) (k : Key) :
    put origin base k (s.member k) = .ok (base.overlay s [k]) := by
  cases k with
  | format =>
    show (do return { base with format := ← OutputFormat.decode origin (.text s.format.name) }) = _
    rw [OutputFormat.decode_name]
    rfl
  | terminator | directory | allowPartialRevert => rfl

theorem foldlM_entries (base s : Settings) (keys : List Key) :
    (s.entries keys).foldlM (shape.putEntry (put origin)) base = .ok (base.overlay s keys) := by
  induction keys generalizing base with
  | nil => rfl
  | cons k keys ih =>
    show ((shape.name k, s.member k) :: s.entries keys).foldlM _ _ = _
    rw [RecordShape.foldlM_cons (key?_name k) (put_member base s k), ih, overlay_cons base s k keys]

theorem decode_entries (origin : Origin) (s : Settings) (keys : List Key) :
    decode origin (.table (s.entries keys)) = .ok (Settings.default.overlay s keys) := by
  unfold decode
  rw [RecordShape.fill_table .document (foldlM_entries Settings.default s keys)]
  rfl

theorem decode_encode (origin : Origin) (s : Settings) : decode origin s.encode = .ok s := by
  rw [encode_eq, decode_entries, overlay_keys]

theorem ofToml_of_read {text : String} (s : Settings) (keys : List Key)
    (h : Toml.read text = some (.table (s.entries keys))) :
    ofToml text = .ok (Settings.default.overlay s keys) := by
  unfold ofToml Node.decodeToml
  rw [h]
  show (decode .toml (.table (s.entries keys))).mapError TextError.rejected = _
  rw [decode_entries]
  rfl

/-- A document that gives settings under some keys, in any order, is read as these settings on top of
the defaults, and so is a file with this document in it. Settings that are written out are therefore
read back, and those of an empty file are the defaults. -/
theorem decode_overlay (s : Settings) :
    (∀ origin (keys : List Key),
      decode origin (.table (s.entries keys)) = .ok (Settings.default.overlay s keys)) ∧
    (∀ (keys : List Key) text, Toml.read text = some (.table (s.entries keys)) →
      ofToml text = .ok (Settings.default.overlay s keys)) ∧
    (∀ origin, decode origin s.encode = .ok s) ∧
    ofToml "" = .ok .default :=
  ⟨fun origin => decode_entries origin s, fun keys _ => ofToml_of_read s keys,
    fun origin => decode_encode origin s, ofToml_of_read s [] rfl⟩

theorem decode_overlay_two_keys :
    let s : Settings := ⟨.json, "", "plans", true⟩
    let text := "terminator = \"\"\nformat = \"json\"\n"
    Toml.read text = some (.table (s.entries [.terminator, .format])) ∧
    ofToml text = .ok ⟨.json, "", "migrations", false⟩ := by
  intro s text
  have hread : Toml.read text = some (.table (s.entries [.terminator, .format])) :=
    Toml.read_plain [.pair "terminator" "", .pair "format" "json"]
      (List.all_eq_true.mp (by decide)) (by decide)
  exact ⟨hread, (decode_overlay s).2.1 _ _ hread⟩

end Settings

end SchemaEvolution
