import Census.Settings.Basic
import Census.Settings.Dotenv
import Census.Table
import Census.Text.Lower
/-! Settings from an environment and a file. Names carry a common beginning and their case does not
matter. The environment goes before the file. The file may hold nothing else. -/
namespace Census.Settings

def nameStart : String := "mg_callhome_"

/-- Named values with their names in lower case, the last of equal names. -/
def byName {α : Type} (values : List (String × α)) : Table α :=
  values.foldl (fun t (name, a) => Table.put t (String.ofList (Text.lower name.toList)) a) []

def source (env : Table String) (file : Table (Option String)) (name : String) : Option String :=
  (Table.get? env (nameStart ++ name)).or ((Table.get? file (nameStart ++ name)).join)

/-- Names of the file that mean nothing here. A name without a value is passed over, and so is the
name of a setting without the common beginning. -/
def unknownNames (file : Table (Option String)) : List String :=
  file.filterMap fun (name, value) =>
    match value with
    | none => none
    | some v =>
      if v = "" ∨ (slot? name).isSome ∨ slots.any (fun (n, _) => nameStart ++ n == name) then none
      else some name

def read (env : List (String × String)) (file : Option String) : Checked Settings :=
  let env' := byName env
  let file' := byName ((file.map (Dotenv.read env)).getD [])
  replace (fun name => (source env' file' name).map .string) (unknownNames file')

end Census.Settings
