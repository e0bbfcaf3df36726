/-
How one declaration speaks of a type: by its name, or by the tag of the host type it stands for.
-/

namespace Metamodel

/-- The identifier under which the host program knows a type. -/
structure HostTag where
  id : String
deriving DecidableEq, Inhabited

namespace HostTag

/-! ### The tags of the standard types -/

def integer : HostTag := ⟨"i64"⟩

def decimal : HostTag := ⟨"f64"⟩

def text : HostTag := ⟨"alloc::string::String"⟩

def boolean : HostTag := ⟨"bool"⟩

def timestamp : HostTag := ⟨"chrono::datetime::DateTime<chrono::offset::utc::Utc>"⟩

def interval : HostTag := ⟨"domain_core::temporal::TemporalInterval"⟩

end HostTag

inductive Reference where
  | named (name : String)
  | tagged (tag : HostTag)
deriving DecidableEq, Inhabited

/-- The reference as messages show it, to be read after the word "type". -/
def Reference.display : Reference → String
  | named name => "'" ++ name ++ "'"
  | tagged tag => "with host tag '" ++ tag.id ++ "'"

end Metamodel
