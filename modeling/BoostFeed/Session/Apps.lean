import BoostFeed.Json.Record
import BoostFeed.Json.Value
import BoostFeed.Text.Blank
import BoostFeed.Text.LowerCase

/-! The catalog of apps: icon and homepage by name, whatever its case and the blanks around it. -/

namespace BoostFeed

open Json

/-- What the catalog knows of an app. -/
structure AppInfo where
  icon : String := ""
  url : Option String := none
deriving DecidableEq

def AppInfo.fields : List Field := ["icon", "url"]

def AppInfo.ofTree? (t : Tree) : Option AppInfo := do
  let r ← t.record? AppInfo.fields
  return { icon := ← r.field "icon" "" Tree.text?, url := ← r.optional "url" Tree.text? }

/-- What a row shows for its app. -/
structure AppBadge where
  icon : String
  url : Option String
deriving DecidableEq

/-- The icon of an app without one. -/
def genericIcon : String := "generic"

/-- Apps by normalized name, each name once. -/
structure AppCatalog where
  apps : List (String × AppInfo) := []
deriving DecidableEq, Inhabited

namespace AppCatalog

def normalize (name : String) : String := Text.lower (Text.trim name)

/-- Enters an app; one of the same name goes. -/
def insert (c : AppCatalog) (name : String) (info : AppInfo) : AppCatalog :=
  { apps := (name, info) :: c.apps.filter (·.1 ≠ name) }

/-- The apps that an object writes: by name, each name once. -/
def entries? (t : Tree) : Option (List (String × AppInfo)) := (t.map? AppInfo.ofTree?).map sortMembers

/-- The catalog of apps. Of names that differ in case and blanks only the last counts. -/
def ofEntries (entries : List (String × AppInfo)) : AppCatalog :=
  entries.foldl (fun c (name, info) => c.insert (normalize name) info) {}

/-- The catalog that an object of apps writes. -/
def ofTree? (t : Tree) : Option AppCatalog := (entries? t).map ofEntries

def size (c : AppCatalog) : Nat := c.apps.length

def lookup (c : AppCatalog) (app : String) : AppBadge :=
  match c.apps.lookup (normalize app) with
  | some info => ⟨if info.icon = "" then genericIcon else info.icon, info.url⟩
  | none => ⟨genericIcon, none⟩

end AppCatalog

end BoostFeed
