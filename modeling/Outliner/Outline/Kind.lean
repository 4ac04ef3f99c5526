import Outliner.Text.Basic

namespace Outliner

inductive Kind where
  | file
  | folder
  | classType
  | function
  | container
  | parameter
  | localVariable
  | object
  | arrayItem
  | property
  | error
deriving DecidableEq, Repr

namespace Kind

def all : List Kind :=
  [file, folder, classType, function, container, parameter, localVariable, object, arrayItem,
    property, error]

def name : Kind → Text
  | file => "file".toList
  | folder => "folder".toList
  | classType => "class".toList
  | function => "function".toList
  | container => "container".toList
  | parameter => "parameter".toList
  | localVariable => "variable".toList
  | object => "object".toList
  | arrayItem => "array_item".toList
  | property => "property".toList
  | error => "error".toList

def ofName? (text : Text) : Option Kind :=
  all.find? (·.name == text)

end Kind

end Outliner
