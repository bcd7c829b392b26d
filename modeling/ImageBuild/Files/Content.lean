namespace ImageBuild.Files

mutual

inductive Content where
  | bytes (data : ByteArray)
  | archive (members : List (String × Item))

/-- What an archive holds under a name. -/
inductive Item where
  | file (content : Content)
  | directory
  | symbolicLink (target : String)
  /-- A second name for a file before it in the archive. -/
  | hardLink (target : String)
  | special

end

instance : Inhabited Content := ⟨.bytes .empty⟩
instance : Inhabited Item := ⟨.directory⟩

abbrev Member := String × Item

/-- The bytes of a file. Of an archive only the zero bytes at its end are told. -/
def Content.data : Content → ByteArray
  | bytes data => data
  | archive _ => ByteArray.mk (Array.replicate 1024 0)

end ImageBuild.Files
