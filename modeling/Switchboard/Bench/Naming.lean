namespace Switchboard.Bench

/-!
# Full names of types

Messages about a wrong type give its full name: the name of the type behind the part it belongs
to.
-/

/-- The full name of a type of the sample application. -/
def applicationType (name : String) : String := "driver::model::" ++ name

/-- The full name of a type of the container library. -/
def libraryType (part name : String) : String := "conduit_std::" ++ part ++ "::" ++ name

/-- The full name of events. -/
def eventType : String := "conduit_core::event::Event"

/-- The full name of texts. -/
def textType : String := "alloc::string::String"

/-- The full name of numbers. -/
def numberType : String := "u64"

end Switchboard.Bench
